import LoopKernels.Proofs.Reduction.Aggregate

/-!
# When a seed does not show

A fold starts at a seed that the elements do not contain. The seed does not show exactly
when updating it by an element gives the element: then the fold of a lane is the value
of the operator on the lane. A reduction finds its seed in two steps, the neutral
element being clamped to the accumulator's type and the outcome brought into the type
of the elements. Where the accumulator's type has integers, its neutral element is
wrapped, and what comes out is neutral only for some pairs of types; `seedFits` lists
them.
-/

namespace LoopKernels

namespace Primitive

/-- An operator that folds with a neutral element aggregates, or skips zeros. -/
theorem mem_reducing (p : Primitive) (supported : p ∈ reducing) :
    p ∈ aggregating ∨ p = mulWithoutZeros := by
  revert supported
  cases p <;> decide

/-- The types of an accumulator whose neutral element is neutral among the elements. Sums,
    products and two of the bitwise operators need nothing. The ones of an unsigned
    accumulator must reach to the width of the elements; the least and the greatest value of
    the accumulator's type must become those of the elements. -/
def seedFits (p : Primitive) (e accumulator : ElemType) : Bool :=
  match p, accumulator.family with
  | _, .float => true
  | .and, .signed => true
  | .and, _ => e.width ≤ accumulator.width
  | .maximum, .signed =>
    (e.isSigned && e.width == accumulator.width) || (e.isUnsigned && e.width < accumulator.width)
  | .maximum, _ => !e.isSigned
  | .minimum, .signed =>
    (e.isSigned && e.width == accumulator.width) || (!e.isSigned && e.width < accumulator.width)
  | .minimum, _ => !e.isSigned && e.width ≤ accumulator.width
  | _, _ => true

end Primitive

/-- Updating the seed by an element gives the element. -/
def Update.Neutral (u : Update) (e : ElemType) (seed : Scalar) : Prop :=
  ∀ value n, value.Holds e n → u.apply e seed value 0 = value

namespace Primitive

variable {p : Primitive} {u : Update} {e : ElemType}

/-- An update keeps to the elements of the type. -/
theorem exists_apply_holds (supported : p ∈ reducing) (isUpdate : Update.ofPrimitive? p = some u)
    (a b : Scalar) (m n : Int) (before : Nat) (left : a.Holds e m) (right : b.Holds e n) :
    ∃ r, (u.apply e a b before).Holds e r := by
  rcases p.mem_reducing supported with aggregates | rfl
  · exact ⟨_, p.apply_pair_holds aggregates u isUpdate e a b m n before left right⟩
  · obtain rfl := Option.some.inj isUpdate
    simp only [Update.apply, Scalar.mulWithoutZeros]
    split
    · exact ⟨n, right.cast_self.symm ▸ right⟩
    · split
      · exact ⟨m, left.cast_self.symm ▸ left⟩
      · exact ⟨_, Rule.mul_holds e a b m n left right⟩

/-- A fold keeps to the elements of the type. -/
theorem exists_foldFrom_holds (supported : p ∈ reducing)
    (isUpdate : Update.ofPrimitive? p = some u) (values : List Scalar)
    (each : ∀ value ∈ values, ∃ n, value.Holds e n) (before : Nat) (acc : Scalar) (m : Int)
    (accumulated : acc.Holds e m) : ∃ r, (u.foldFrom e before acc values).Holds e r := by
  induction values generalizing before acc m with
  | nil => exact ⟨m, accumulated⟩
  | cons value values inductionHypothesis =>
    rw [List.forall_mem_cons] at each
    obtain ⟨⟨n, held⟩, others⟩ := each
    obtain ⟨r, updated⟩ :=
      exists_apply_holds supported isUpdate acc value m n before accumulated held
    exact inductionHypothesis others (before + 1) _ r updated

/-- A fold by updates is the fold by any step that agrees with them on elements. -/
theorem foldFrom_eq_foldl (supported : p ∈ reducing) (isUpdate : Update.ofPrimitive? p = some u)
    (step : Scalar → Scalar → Scalar)
    (agrees : ∀ a b m n before, a.Holds e m → b.Holds e n → u.apply e a b before = step a b)
    (values : List Scalar) (each : ∀ value ∈ values, ∃ n, value.Holds e n) (before : Nat)
    (acc : Scalar) (m : Int) (accumulated : acc.Holds e m) :
    u.foldFrom e before acc values = values.foldl step acc := by
  induction values generalizing before acc m with
  | nil => rfl
  | cons value values inductionHypothesis =>
    rw [List.forall_mem_cons] at each
    obtain ⟨⟨n, held⟩, others⟩ := each
    obtain ⟨r, updated⟩ :=
      exists_apply_holds supported isUpdate acc value m n before accumulated held
    rw [Update.foldFrom, List.foldl_cons, inductionHypothesis others _ _ r updated,
      agrees acc value m n before accumulated held]

/-- The value on elements is the fold of the updates from the first of them on. -/
theorem evalOn_eq_foldFrom (supported : p ∈ reducing) (isUpdate : Update.ofPrimitive? p = some u)
    (first : Scalar) (m : Int) (held : first.Holds e m) (rest : List Scalar)
    (each : ∀ value ∈ rest, ∃ n, value.Holds e n) :
    p.evalOn e first rest = u.foldFrom e 1 first rest := by
  have folds : ∀ step, (∀ a b m n before, a.Holds e m → b.Holds e n →
      u.apply e a b before = step a b) →
        foldOperands e step first rest = u.foldFrom e 1 first rest := by
    intro step agrees
    rw [foldOperands, held.cast_self,
      foldFrom_eq_foldl supported isUpdate step agrees rest each 1 first m held]
  have real : ∀ (s : Scalar) (n : Int), s.Holds e n → s.isNaN = false := by
    intro s n holds
    have whole := holds.scalar_isFloat
    cases s <;> simp_all [Scalar.isNaN, Scalar.isFloat]
  simp only [reducing, List.mem_cons, List.not_mem_nil, or_false] at supported
  rcases supported with rfl | rfl | rfl | rfl | rfl | rfl | rfl | rfl <;>
    obtain rfl := Option.some.inj isUpdate
  · exact folds _ fun a b m n before left right => rfl
  · exact folds _ fun a b m n before left right => rfl
  · exact folds _ fun a b m n before left right => rfl
  · refine folds _ ?_
    intro a b m n before left right
    simp [Update.apply, greater, real a m left, real b n right, left.cast_self]
  · refine folds _ ?_
    intro a b m n before left right
    simp [Update.apply, lesser, real a m left, real b n right, left.cast_self]
  · exact folds _ fun a b m n before left right => rfl
  · exact folds _ fun a b m n before left right => rfl
  · exact folds _ fun a b m n before left right => rfl

/-- On at least one element of a truth-value or integer type the operator has its value. -/
theorem eval_eq_evalOn (supported : p ∈ reducing) (first : Scalar) (m : Int)
    (held : first.Holds e m) (rest : List Scalar) (each : ∀ value ∈ rest, ∃ n, value.Holds e n) :
    (Operator.prim p).eval (first :: rest) e = .ok (p.evalOn e first rest) := by
  have accepted : (Operator.prim p).checkArity (rest.length + 1) = .ok () := by
    simp only [reducing, List.mem_cons, List.not_mem_nil, or_false] at supported
    rcases supported with rfl | rfl | rfl | rfl | rfl | rfl | rfl | rfl <;>
      simp [Operator.checkArity, Operator.arity, arity, Arity.accepts]
  have exact : ∀ value ∈ first :: rest, value.isFloat = false := by
    rw [List.forall_mem_cons]
    refine ⟨held.scalar_isFloat, ?_⟩
    intro value listed
    obtain ⟨n, holds⟩ := each value listed
    exact holds.scalar_isFloat
  have noFloat : (first :: rest).any Scalar.isFloat = false := by
    rw [List.any_eq_false]
    intro value listed
    simp [exact value listed]
  simp [Operator.eval, Operator.operands?, accepted, noFloat, held.isFloat_eq]

/-- A seed is neutral exactly when the fold of every lane is the value on the lane. -/
theorem neutral_iff_eval (supported : p ∈ reducing) (isUpdate : Update.ofPrimitive? p = some u)
    (seed : Scalar) :
    u.Neutral e seed ↔ ∀ values, values ≠ [] → (∀ value ∈ values, ∃ n, value.Holds e n) →
      (Operator.prim p).eval values e = .ok (u.fold e seed values) := by
  constructor
  · intro neutral values nonempty each
    obtain ⟨first, rest, rfl⟩ := List.exists_cons_of_ne_nil nonempty
    rw [List.forall_mem_cons] at each
    obtain ⟨⟨m, held⟩, others⟩ := each
    rw [eval_eq_evalOn supported first m held rest others,
      evalOn_eq_foldFrom supported isUpdate first m held rest others, Update.fold, Update.foldFrom,
      neutral first m held]
  · intro agrees value n held
    have single := agrees [value] (by simp) (by simpa using ⟨n, held⟩)
    rw [eval_eq_evalOn supported value n held [] (by simp),
      evalOn_eq_foldFrom supported isUpdate value n held [] (by simp)] at single
    exact (Except.ok.inj single).symm

/-- Among elements, an aggregate with the aggregate of nothing is the other operand. -/
theorem aggregate_pair_zero (aggregates : p ∈ aggregating) (exact : e.isFloat = false) (n : Int)
    (inRange : e.wrap n = n) : p.aggregate e {p.aggregate e 0, n} = n := by
  rw [Multiset.insert_eq_cons, p.aggregate_join e exact, zero_add,
    p.aggregate_singleton aggregates e exact n inRange]

/-- The only neutral seed of an operator that aggregates is the aggregate of nothing. -/
theorem neutral_iff_aggregate (aggregates : p ∈ aggregating)
    (isUpdate : Update.ofPrimitive? p = some u) (exact : e.isFloat = false) (identity : Float)
    (hasNeutral : p.neutral = some identity) (seed : Scalar) (m : Int) (held : seed.Holds e m) :
    u.Neutral e seed ↔ m = p.aggregate e 0 := by
  have zero := p.seed_holds aggregates e exact identity hasNeutral
  constructor
  · intro neutral
    -- The aggregate of nothing is an element too, and both orders of the two give one.
    have updated := p.apply_pair_holds aggregates u isUpdate e _ _ _ _ 0 held zero
    rw [neutral _ _ zero, Multiset.pair_comm, aggregate_pair_zero aggregates exact m held.wrap_eq]
      at updated
    exact Option.some.inj (updated.integer_eq.symm.trans zero.integer_eq)
  · rintro rfl value n element
    have updated := p.apply_pair_holds aggregates u isUpdate e _ _ _ _ 0 held element
    rw [aggregate_pair_zero aggregates exact n element.wrap_eq] at updated
    exact updated.unique element

/-- Zero is neutral for products without zeros. -/
theorem neutral_mulWithoutZeros (seed : Scalar) (held : seed.Holds e 0) :
    Update.mulWithoutZeros.Neutral e seed := by
  intro value n element
  have absent : seed.isZero = true := by simp [seed.isZero_eq 0 held.integer_eq]
  simp [Update.apply, Scalar.mulWithoutZeros, absent, element.cast_self]

/-- A float accumulator keeps the neutral element as it is. -/
theorem seed_float (p : Primitive) (identity : Float) (hasNeutral : p.neutral = some identity)
    (accumulator : ElemType) (isFloat : accumulator.isFloat = true) :
    (Scalar.float identity).seed accumulator = .float identity := by
  have single : toSingle identity = identity := by
    cases p <;> simp only [neutral, reduceCtorEq, Option.some.injEq] at hasNeutral <;>
      subst hasNeutral <;> decide +kernel
  cases accumulator <;>
    simp only [ElemType.isFloat, ElemType.family, beq_self_eq_true, reduceCtorEq, beq_iff_eq]
      at isFloat
  · simp [Scalar.seed, Scalar.clampedIdentity, ElemType.bounds, ElemType.family, ElemType.isFloat,
      Scalar.cast, Scalar.toFloat, single]
  · simp [Scalar.seed, Scalar.clampedIdentity, ElemType.bounds, ElemType.family, ElemType.isFloat,
      Scalar.cast, Scalar.toFloat]

/-- The neutral element of the accumulator's type, wrapped into the type of the elements, is
    the neutral element there exactly when the types fit. -/
theorem seedFits_iff_wrap (aggregates : p ∈ aggregating) (exact : e.isFloat = false)
    (accumulator : ElemType) (whole : accumulator.isFloat = false) :
    p.seedFits e accumulator = true ↔ e.wrap (p.aggregate accumulator 0) = p.aggregate e 0 := by
  have listed : ∀ type : ElemType, type ∈ ElemType.all := by
    intro type
    cases type <;> decide
  have table : ∀ p ∈ aggregating, ∀ e ∈ ElemType.all, ∀ accumulator ∈ ElemType.all,
      e.isFloat = false → accumulator.isFloat = false →
      (p.seedFits e accumulator = true ↔
        e.wrap (p.aggregate accumulator 0) = p.aggregate e 0) := by
    decide +kernel
  exact table p aggregates e (listed e) accumulator (listed accumulator) exact whole

/-- The seed after both steps: a float accumulator hands the neutral element on, any other
    hands on its own neutral element, which wraps. -/
theorem seeded_holds (aggregates : p ∈ aggregating) (exact : e.isFloat = false) (identity : Float)
    (hasNeutral : p.neutral = some identity) (accumulator : ElemType) :
    (((Scalar.float identity).seed accumulator).seed e).Holds e
      (if accumulator.isFloat then p.aggregate e 0 else e.wrap (p.aggregate accumulator 0)) := by
  cases kind : accumulator.isFloat with
  | true =>
    rw [p.seed_float identity hasNeutral accumulator kind]
    exact p.seed_holds aggregates e exact identity hasNeutral
  | false =>
    have first := p.seed_holds aggregates accumulator kind identity hasNeutral
    have second := Scalar.cast_holds _ e _ first.integer_eq exact
    have handed : ((Scalar.float identity).seed accumulator).seed e =
        ((Scalar.float identity).seed accumulator).cast e := by
      have whole := first.scalar_isFloat
      cases seed : (Scalar.float identity).seed accumulator with
      | float x => simp [seed, Scalar.isFloat] at whole
      | _ => rfl
    rw [handed]
    exact second

/-- Products without zeros have the neutral element of sums, and zero stays zero. -/
theorem seeded_zero_holds (exact : e.isFloat = false) (accumulator : ElemType) :
    (((Scalar.float 0).seed accumulator).seed e).Holds e 0 := by
  simpa [aggregate_zero] using seeded_holds (p := add) (by decide) exact 0 rfl accumulator

/-- The seed of a reduction is an element of the type. -/
theorem exists_seeded_holds (supported : p ∈ reducing) (exact : e.isFloat = false)
    (identity : Float) (hasNeutral : p.neutral = some identity) (accumulator : ElemType) :
    ∃ m, (((Scalar.float identity).seed accumulator).seed e).Holds e m := by
  rcases p.mem_reducing supported with aggregates | rfl
  · exact ⟨_, seeded_holds aggregates exact identity hasNeutral accumulator⟩
  · obtain rfl := Option.some.inj hasNeutral
    exact ⟨0, seeded_zero_holds exact accumulator⟩

/-- The seed of a reduction is neutral exactly when the accumulator's type fits. -/
theorem seed_neutral_iff (supported : p ∈ reducing) (isUpdate : Update.ofPrimitive? p = some u)
    (exact : e.isFloat = false) (identity : Float) (hasNeutral : p.neutral = some identity)
    (accumulator : Option ElemType) :
    u.Neutral e (((Scalar.float identity).seed (accumulator.getD e)).seed e) ↔
      ∀ type ∈ accumulator, p.seedFits e type = true := by
  rcases p.mem_reducing supported with aggregates | rfl
  · have seeded := seeded_holds aggregates exact identity hasNeutral (accumulator.getD e)
    rw [neutral_iff_aggregate aggregates isUpdate exact identity hasNeutral _ _ seeded]
    cases accumulator with
    | none =>
      have zero := p.seed_holds aggregates e exact identity hasNeutral
      simp [exact, zero.wrap_eq]
    | some type =>
      cases kind : type.isFloat with
      | true =>
        have float : type.family = .float := by simpa [ElemType.isFloat] using kind
        simp [seedFits, float, kind]
      | false => simp [kind, seedFits_iff_wrap aggregates exact type kind]
  · obtain rfl := Option.some.inj isUpdate
    obtain rfl := Option.some.inj hasNeutral
    refine iff_of_true (neutral_mulWithoutZeros _ (seeded_zero_holds exact _)) ?_
    intro type _
    cases kind : type.family <;> simp [seedFits, kind]

end Primitive

end LoopKernels
