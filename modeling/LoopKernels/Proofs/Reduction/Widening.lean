import LoopKernels.Proofs.Reduction.Joint

/-!
# Sums in another type than that of the elements

A sum may run in an integer type that is not the type of its elements. Words are added
modulo the width, so an element that is cast before it is added gives the same sum, and
a reduction by addition gives the same array as the reduction of the converted array.
Truth values are no integers in this sense: there a sum is a disjunction, and casting to
a truth value forgets how much was to be added.
-/

namespace LoopKernels

/-- An integer added to an element of an integer type wraps, whatever type the integer has. -/
theorem Rule.add_holds_of_integer (e : ElemType) (notBool : e.family ≠ .bool) (a b : Scalar)
    (m n : Int) (left : a.Holds e m) (right : b.integer? = some n) :
    (Rule.add.apply e a b).Holds e (e.wrap (m + n)) := by
  have exact := left.isFloat_eq
  have sum := Rule.add_computes.apply_holds notBool exact ⟨m, left.integer_eq, rfl⟩ ⟨n, right, rfl⟩
  rwa [← BitVec.ofInt_add, ElemType.ofBits, BitVec.toInt_ofInt,
    e.wrap_bmod notBool exact _ e.width (Nat.le_refl _)] at sum

/-- An integer may be cast before it is added to an element of an integer type. -/
theorem Rule.add_cast (e : ElemType) (notBool : e.family ≠ .bool) (a b : Scalar) (m n : Int)
    (left : a.Holds e m) (right : b.integer? = some n) :
    Rule.add.apply e a (b.cast e) = Rule.add.apply e a b := by
  have exact := left.isFloat_eq
  have plain := Rule.add_holds_of_integer e notBool a b m n left right
  have wrapped := Rule.add_holds e a (b.cast e) m _ left (b.cast_holds e n right exact)
  rw [Int.add_comm, e.wrap_wrap_add notBool exact, Int.add_comm] at wrapped
  exact wrapped.unique plain

namespace Update

/-- Integers may be cast before they are summed in an integer type.

    Induction on the integers to come; the accumulator stays an element of the type. -/
theorem foldFrom_add_cast (e : ElemType) (notBool : e.family ≠ .bool) (values : List Scalar)
    (each : ∀ value ∈ values, ∃ n, value.integer? = some n) (before : Nat) (acc : Scalar) (m : Int)
    (accumulated : acc.Holds e m) :
    add.foldFrom e before acc (values.map (·.cast e)) = add.foldFrom e before acc values := by
  induction values generalizing before acc m with
  | nil => rfl
  | cons value values inductionHypothesis =>
    rw [List.forall_mem_cons] at each
    obtain ⟨⟨n, integer⟩, others⟩ := each
    have step := Rule.add_cast e notBool acc value m n accumulated integer
    have updated := Rule.add_holds_of_integer e notBool acc value m n accumulated integer
    simp only [List.map_cons, foldFrom, apply, step]
    exact inductionHypothesis others (before + 1) _ _ updated

/-- The sum of integers of any types in an integer type is their sum, wrapped once. -/
theorem foldFrom_add_holds {α : Type} (e : ElemType) (notBool : e.family ≠ .bool)
    (elements : List α) (value : α → Scalar) (integer : α → Int)
    (each : ∀ x ∈ elements, (value x).integer? = some (integer x)) (before : Nat) (acc : Scalar)
    (met : Int) (accumulated : acc.Holds e (e.wrap met)) :
    (add.foldFrom e before acc (elements.map value)).Holds e
      (e.wrap (met + (elements.map integer).sum)) := by
  induction elements generalizing before acc met with
  | nil => simpa [foldFrom] using accumulated
  | cons x elements inductionHypothesis =>
    rw [List.forall_mem_cons] at each
    have step := Rule.add_holds_of_integer e notBool acc (value x) _ _ accumulated each.1
    rw [e.wrap_wrap_add notBool accumulated.isFloat_eq] at step
    have rest := inductionHypothesis each.2 (before + 1) _ (met + integer x) step
    rwa [Int.add_assoc, ← List.sum_cons, ← List.map_cons] at rest

end Update

/-- Wrapping the summands first changes no sum and no disjunction. -/
theorem Primitive.aggregate_add_wrap (e : ElemType) (exact : e.isFloat = false)
    (xs : Multiset Int) :
    Primitive.add.aggregate e (xs.map e.wrap) = Primitive.add.aggregate e xs := by
  by_cases isBool : e = .bool
  · subst isBool
    have zero : ∀ n, ElemType.bool.wrap n = 0 ↔ n = 0 := by
      intro n
      by_cases same : n = 0 <;> simp [ElemType.wrap, ElemType.family, same]
    simp [aggregate, zero]
  · have notBool : e.family ≠ .bool := by cases e <;> simp_all [ElemType.family]
    simp only [aggregate, isBool, if_false]
    induction xs using Multiset.induction_on with
    | empty => rfl
    | cons n xs inductionHypothesis =>
      rw [Multiset.map_cons, Multiset.sum_cons, Multiset.sum_cons,
        e.wrap_wrap_add notBool exact, Int.add_comm, ← e.wrap_wrap_add notBool exact,
        inductionHypothesis, e.wrap_wrap_add notBool exact, Int.add_comm]

variable {e : ElemType} {x : Tensor} {m : Int}

/-- A reduction of one axis by addition may convert the array first. -/
theorem AxisReducer.reduce_convert (r : AxisReducer) (isAdd : r.update = .add) (type : r.elem = e)
    (notBool : e.family ≠ .bool) (seedHolds : r.seed.Holds e m) (removed : r.keepDims = false)
    (array : r.returnScalar = false) (valid : x.Valid) (bounded : x.InRange)
    (exact : x.elem.isFloat = false) (rank : x.rank = r.rank) (bound : r.axis < r.rank)
    (checked : Bool) : r.reduce (x.convert e) checked = r.reduce x checked := by
  by_cases fits : x.shape.ReduceFits r.axis
  case neg =>
    have shape : (x.convert e).shape = x.shape := x.shape_convert e
    rw [r.reduce_overflow x checked rank bound fits,
      r.reduce_overflow (x.convert e) checked (by rw [Tensor.rank, shape, ← rank, Tensor.rank])
        bound (by rwa [shape])]
  obtain ⟨u, ran, plain⟩ :=
    r.reduce_removed valid.represents checked rank bound fits removed (.inr array)
  obtain ⟨w, ranConverted, converted⟩ :=
    r.reduce_removed (valid.convert_represents bounded exact e) checked rank bound fits removed
      (.inr array)
  have same : w = u := by
    refine converted.unique u (plain.congr _ ?_)
    intro rest inside
    have lane : laneAt r.axis (x.shape.getD r.axis 0) (fun coord => (x.element coord).cast e) rest =
        (laneAt r.axis (x.shape.getD r.axis 0) x.element rest).map (·.cast e) := by
      simp [laneAt, Function.comp_def]
    have integers : ∀ value ∈ laneAt r.axis (x.shape.getD r.axis 0) x.element rest,
        ∃ n, value.integer? = some n := by
      intro value listed
      obtain ⟨index, below, rfl⟩ := List.mem_map.mp listed
      have there := Shape.contains_insert x.shape r.axis index rest (lt_of_lt_of_eq bound rank.symm)
        (List.mem_range.mp below) inside
      exact ⟨_, (valid.holds bounded exact _ there).integer_eq⟩
    rw [lane, isAdd, type, Update.fold, Update.fold,
      Update.foldFrom_add_cast e notBool _ integers 0 r.seed m seedHolds]
  rw [ranConverted, ran, same]

/-- A chain of reductions by addition gives on an array what it gives on the converted one,
    once that is converted; with a first step nothing is left to convert. -/
theorem AxesReducer.runSteps_convert (seed : Scalar) (seedHolds : (seed.seed e).Holds e m)
    (notBool : e.family ≠ .bool) (config : Config) (axes : List Nat) (number rank : Nat)
    (bounds : ∀ axis ∈ axes, axis < rank) (reducers : List AxisReducer)
    (chained : chain (.prim .add) seed e number rank axes = .ok reducers) (valid : x.Valid)
    (bounded : x.InRange) (exact : x.elem.isFloat = false) (sameRank : x.rank = rank)
    (result : Tensor) (type : result.elem = e)
    (ran : runSteps (reducers.map (·.stepKernel config)) (x.convert e) = .ok result) :
    ∃ u, runSteps (reducers.map (·.stepKernel config)) x = .ok u ∧ u.convert e = result := by
  cases axes with
  | nil =>
    obtain rfl : [] = reducers := Except.ok.inj chained
    exact ⟨x, rfl, Except.ok.inj ran⟩
  | cons axis rest =>
    have bound : axis < rank := bounds axis List.mem_cons_self
    have head := AxisReducer.build_prim .add .add e
      (Update.ofOperator_prim rfl seedHolds.isFloat_eq) seed rank axis axis
      (Axis.resolve_natCast rank axis bound) false false
    rw [chain, head, Outcome.bind_ok] at chained
    obtain ⟨others, -, steps⟩ := (Outcome.bind_eq_ok _ _ _).mp chained
    obtain rfl := Except.ok.inj steps
    have first := AxisReducer.reduce_convert (x := x)
      ⟨"careduce_axes_fn_" ++ toString number, "add", .add, seed.seed e, axis, rank, e, false,
        false⟩
      rfl rfl notBool seedHolds rfl rfl valid bounded exact sameRank bound false
    refine ⟨result, ?_, by simp [Tensor.convert, type]⟩
    simp only [List.map_cons, runSteps, AxisReducer.stepKernel_call] at ran ⊢
    rw [← ran]
    exact congrArg (· >>= _) first.symm

/-- The reduction of a list of axes by addition gives on an array what it gives on the
    converted one, once that is converted. -/
theorem Reducer.run_convert (seed : Scalar) (seedHolds : (seed.seed e).Holds e m)
    (notBool : e.family ≠ .bool) (config : Config) (numbers : List Int) (rank : Nat)
    (resolved : List Nat) (denote : Axis.resolveAll rank numbers = .ok resolved)
    (bounds : ∀ axis ∈ resolved, axis < rank) (inputName : String) (options : Options)
    (reducer : Reducer)
    (built : build (.prim .add) seed numbers rank e inputName false config = .ok reducer)
    (valid : x.Valid) (bounded : x.InRange) (exact : x.elem.isFloat = false)
    (sameRank : x.rank = rank) (result : Tensor) (type : result.elem = e)
    (ran : reducer.definition.run options [x.convert e] = .ok (.tensor result)) :
    ∃ u, reducer.definition.run options [x] = .ok (.tensor u) ∧ u.convert e = result := by
  have update : Update.ofOperator (.prim .add) e = .ok .add :=
    Update.ofOperator_prim rfl seedHolds.isFloat_eq
  by_cases single : ∃ number, numbers = [number]
  · obtain ⟨number, rfl⟩ := single
    obtain ⟨axis, denotes, rfl⟩ := Axis.resolveAll_singleton rank number resolved denote
    have bound : axis < rank := bounds axis List.mem_cons_self
    rw [build, AxisReducer.build_prim .add .add e update seed rank number axis denotes] at built
    obtain rfl := Except.ok.inj built
    refine ⟨result, ?_, by simp [Tensor.convert, type]⟩
    rw [← ran]
    exact (AxisReducer.reduce_convert _ rfl rfl notBool seedHolds rfl rfl valid bounded exact
      sameRank bound options.boundscheck).symm
  · rw [build_several (.prim .add) seed numbers rank e inputName false config single] at built
    obtain ⟨chained, made, wrapped⟩ := (Outcome.bind_eq_ok _ _ _).mp built
    obtain rfl := Except.ok.inj wrapped
    simp only [AxesReducer.build, denote, KernelError.ofAxis, update, Outcome.bind_ok] at made
    obtain ⟨reducers, chain, assembled⟩ := (Outcome.bind_eq_ok _ _ _).mp made
    obtain rfl := Except.ok.inj assembled
    have plain : ∀ t, (axes ⟨"careduce_" ++ (Operator.prim .add).name, inputName,
        AxesReducer.descending resolved, reducers.map (·.stepKernel config),
        false⟩).definition.run options [t] =
          AxesReducer.runSteps (reducers.map (·.stepKernel config)) t >>=
            fun reduced => .ok (.tensor reduced) := fun t => rfl
    rw [plain] at ran
    obtain ⟨reduced, steps, same⟩ := (Outcome.bind_eq_ok _ _ _).mp ran
    obtain rfl : reduced = result := by simpa using same
    obtain ⟨u, ranPlain, converted⟩ := AxesReducer.runSteps_convert seed seedHolds notBool config
      (AxesReducer.descending resolved) 0 rank
      (fun axis listed => bounds axis ((AxesReducer.mem_descending resolved axis).mp listed))
      reducers chain valid bounded exact sameRank reduced type steps
    exact ⟨u, by rw [plain, ranPlain, Outcome.bind_ok], converted⟩

end LoopKernels
