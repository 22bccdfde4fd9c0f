import LoopKernels.Lowering.Compile
import LoopKernels.Proofs.Kernel.Signed
import LoopKernels.Proofs.Reduction.Descending

/-!
# Reductions aggregate jointly

A reduction node folds one axis after the other and starts each fold anew. For the
operators that aggregate multisets this is the joint aggregate: each output element is
the aggregate of all elements whose kept coordinates match, for every list of axes in
range. Axes that are repeated, out of order or counted from the end name a set, and the
result depends on that set only. The kernel is always built; where a stride or a count on
the way is no word its run ends, which takes an array without elements.
-/

namespace LoopKernels.Lowering

/-- A reduction node whose reducer is built is compiled, with the signature of the node. -/
theorem compile_reduce (op : Operator) (identity : Float) (hasNeutral : op.neutral = some identity)
    (axes : Option (List Int)) (accumulator : Option ElemType) (input output : TensorType)
    (config : Config) (reducer : Reducer)
    (built : Reducer.build op ((Scalar.float identity).seed (accumulator.getD output.elem))
      (axes.getD ((Axis.every input.rank).map Int.ofNat)) input.rank output.elem "x" false config =
        .ok reducer) :
    (⟨.reduce op axes accumulator, [input], [output]⟩ : Node).compile config =
      .ok ⟨reducer.definition, some ⟨[.ofType input], .ofType output, false⟩,
        Options.reduction config⟩ := by
  simp [Node.compile, reduce, Node.onlyInput, Node.onlyOutput, hasNeutral, built,
    Kernel.compileReduction, Signature.ofNode, Kernel.compile_signed]

/-- A reduction node by an operator that accumulates is compiled, and its kernel ends on the arrays
    whose axes cannot be reduced one after the other. -/
theorem reduce_overflow {op : Operator} {u : Update} {identity : Float}
    (hasNeutral : op.neutral = some identity) (axes : Option (List Int))
    (accumulator : Option ElemType) (input output : TensorType)
    (accumulates : Update.ofOperator op output.elem = .ok u)
    (inRange : Axis.InRange input.rank axes) (config : Config) :
    ∃ kernel,
      (⟨.reduce op axes accumulator, [input], [output]⟩ : Node).compile config = .ok kernel ∧
      ∀ x : Tensor, x.Valid → x.elem = input.elem → x.rank = input.rank →
        ¬ x.shape.ChainFits (Axis.highestFirst input.rank axes) →
          kernel.call [x] = .error (.inTensor .overflow) := by
  have numbers := Axis.inRange_getD input.rank axes inRange
  obtain ⟨reducer, built, inTurn⟩ :=
    Reducer.build_reduces_in_turn ((Scalar.float identity).seed (accumulator.getD output.elem))
      accumulates input.rank _ numbers "x" false config
  refine ⟨_,
    compile_reduce op identity hasNeutral axes accumulator input output config reducer built, ?_⟩
  intro x valid type rank tooLarge
  have bounds : ∀ axis ∈ Axis.highestFirst input.rank axes, axis < x.rank := by
    intro axis listed
    rw [rank]
    exact ((Axis.mem_highestFirst _ _ _).mp listed).1
  have ends := (AxesReducer.reduceInTurn_outcome
    ((Scalar.float identity).seed (accumulator.getD output.elem)) accumulates
    (Axis.highestFirst input.rank axes) x valid (Axis.pairwise_highestFirst _ _) bounds).2 tooLarge
  rw [Kernel.call_single _ _ _ _ x rank type, inTurn _ x valid rank, Axis.highestFirst_getD, ends]
  rfl

variable {p : Primitive} {e : ElemType}

/-- The kernel of a reduction represents the aggregates of the elements that match on the
    kept axes. -/
theorem reduce_represents (supported : p ∈ Primitive.aggregating) (exact : e.isFloat = false)
    (axes : Option (List Int)) (input output : TensorType) (inputType : input.elem = e)
    (outputType : output.elem = e) (inRange : Axis.InRange input.rank axes)
    (outputRank : output.rank = (Axis.kept input.rank axes).length) (config : Config) (x : Tensor)
    (valid : x.Valid) (bounded : x.InRange) (type : x.elem = e) (rank : x.rank = input.rank)
    (fits : x.shape.ChainFits (Axis.highestFirst input.rank axes)) :
    ∃ kernel result reduced,
      (⟨.reduce (.prim p) axes none, [input], [output]⟩ : Node).compile config = .ok kernel ∧
      kernel.call [x] = .ok (.tensor result) ∧
      result.Represents e (Tensor.pick x.shape (Axis.kept input.rank axes)) reduced ∧
      ∀ coord, Shape.contains (Tensor.pick x.shape (Axis.kept input.rank axes)) coord = true →
        (reduced coord).Holds e (p.aggregate e (matching x.shape x.integer
          (Tensor.pick · (Axis.kept input.rank axes)) coord)) := by
  obtain ⟨u, neutral, isUpdate, hasNeutral⟩ :=
    Primitive.exists_update (Primitive.mem_reducing_of_aggregating supported)
  have identity := p.seed_holds supported e exact neutral hasNeutral
  have seedHolds : (((Scalar.float neutral).seed e).seed e).Holds e (p.aggregate e 0) := by
    rwa [identity.seed_self]
  obtain ⟨resolved, denote, distinct, members⟩ := Axis.resolveAll_ok input.rank axes inRange
  have order := AxesReducer.descending_eq_highestFirst input.rank axes resolved distinct members
  have picked : ∀ xs : List Nat, xs.length = input.rank →
      eraseAxes (AxesReducer.descending resolved) xs =
        Tensor.pick xs (Axis.kept input.rank axes) := by
    rw [order]
    exact eraseAxes_highestFirst input.rank axes
  have represents := valid.represents
  have holds := valid.holds bounded (type ▸ exact)
  rw [type] at represents holds
  obtain ⟨reducer, result, reduced, built, ran, resultRepresents, resultHolds⟩ :=
    Reducer.build_aggregates supported u isUpdate exact _ seedHolds config _ input.rank resolved
      denote distinct (fun axis listed => ((members axis).mp listed).1) "x"
      (Options.reduction config) rank (order ▸ fits) represents holds
  rw [picked x.shape rank] at resultRepresents resultHolds
  refine ⟨⟨reducer.definition, some ⟨[.ofType input], .ofType output, false⟩,
    Options.reduction config⟩, result, reduced, ?_, ?_, resultRepresents, fun coord inside => ?_⟩
  · refine compile_reduce (.prim p) neutral hasNeutral axes none input output config reducer ?_
    rw [outputType]
    exact built
  · refine Kernel.call_signed _ _ _ _ x result rank (type.trans inputType.symm) ran ?_
      (resultRepresents.elem_eq.trans outputType.symm)
    simp [Tensor.rank, resultRepresents.shape_eq, Tensor.pick, ArgType.ofType, outputRank]
  · have same := matching_congr x.shape x.integer _ _ coord fun place member =>
      picked place ((Shape.length_of_contains _ _ member).trans rank)
    rw [← same]
    exact resultHolds coord inside

/-- The kernel of a reduction represents the aggregates, or ends on an array with an empty axis
    whose strides and counts are no words. -/
theorem reduce_represents_or_overflow (supported : p ∈ Primitive.aggregating)
    (exact : e.isFloat = false) (axes : Option (List Int)) (input output : TensorType)
    (inputType : input.elem = e) (outputType : output.elem = e)
    (inRange : Axis.InRange input.rank axes)
    (outputRank : output.rank = (Axis.kept input.rank axes).length) (config : Config) (x : Tensor)
    (valid : x.Valid) (bounded : x.InRange) (type : x.elem = e) (rank : x.rank = input.rank) :
    ∃ kernel,
      (⟨.reduce (.prim p) axes none, [input], [output]⟩ : Node).compile config = .ok kernel ∧
      (x.shape.ChainFits (Axis.highestFirst input.rank axes) → ∃ result reduced,
        kernel.call [x] = .ok (.tensor result) ∧
        result.Represents e (Tensor.pick x.shape (Axis.kept input.rank axes)) reduced ∧
        ∀ coord, Shape.contains (Tensor.pick x.shape (Axis.kept input.rank axes)) coord = true →
          (reduced coord).Holds e (p.aggregate e (matching x.shape x.integer
            (Tensor.pick · (Axis.kept input.rank axes)) coord))) ∧
      (¬ x.shape.ChainFits (Axis.highestFirst input.rank axes) →
        0 ∈ x.shape ∧ kernel.call [x] = .error (.inTensor .overflow)) := by
  obtain ⟨u, neutral, isUpdate, hasNeutral⟩ :=
    Primitive.exists_update (Primitive.mem_reducing_of_aggregating supported)
  have accumulates : Update.ofOperator (.prim p) output.elem = .ok u :=
    Update.ofOperator_prim isUpdate (outputType ▸ exact)
  have identity : (Operator.prim p).neutral = some neutral := hasNeutral
  obtain ⟨kernel, compiled, ends⟩ :=
    reduce_overflow identity axes none input output accumulates inRange config
  refine ⟨kernel, compiled, fun fits => ?_, fun tooLarge =>
    ⟨?_, ends x valid (type.trans inputType.symm) rank tooLarge⟩⟩
  · obtain ⟨same, result, reduced, again, reduction⟩ :=
      reduce_represents supported exact axes input output inputType outputType inRange outputRank
        config x valid bounded type rank fits
    obtain rfl := Except.ok.inj (compiled.symm.trans again)
    exact ⟨result, reduced, reduction⟩
  · exact by_contra fun full => tooLarge (Shape.chainFits_of_full _ full valid.2.2)

/-- Every reduction by an operator that aggregates is compiled. It returns the joint aggregates,
    with the reduced axes gone; where nothing matches, the element is the clamped neutral element.
    It does so exactly when the strides and counts on the way are words, and ends otherwise, which
    takes an empty axis. Any other numbers that name the same axes give the same outcome. -/
theorem reduction_is_joint_aggregate (p : Primitive) (supported : p ∈ Primitive.aggregating)
    (e : ElemType) (exact : e.isFloat = false) (axes : Option (List Int))
    (input output : TensorType) (inputType : input.elem = e) (outputType : output.elem = e)
    (inRange : Axis.InRange input.rank axes)
    (outputRank : output.rank = (Axis.kept input.rank axes).length) (config : Config) (x : Tensor)
    (valid : x.Valid) (bounded : x.InRange) (type : x.elem = e) (rank : x.rank = input.rank) :
    ∃ kernel,
      (⟨.reduce (.prim p) axes none, [input], [output]⟩ : Node).compile config = .ok kernel ∧
      (x.shape.ChainFits (Axis.highestFirst input.rank axes) →
        ∃ result, kernel.call [x] = .ok (.tensor result) ∧
          result.Valid ∧ result.elem = e ∧
          result.shape = Tensor.pick x.shape (Axis.kept input.rank axes) ∧
          ∀ coord, Shape.contains result.shape coord = true → ∃ s, result.get coord = .ok s ∧
            s.Holds e (p.aggregate e (matching x.shape x.integer
              (Tensor.pick · (Axis.kept input.rank axes)) coord)) ∧
            (matching x.shape x.integer (Tensor.pick · (Axis.kept input.rank axes)) coord = 0 →
              ∀ neutral ∈ p.neutral, s = Scalar.clampedIdentity neutral e)) ∧
      (¬ x.shape.ChainFits (Axis.highestFirst input.rank axes) →
        0 ∈ x.shape ∧ kernel.call [x] = .error (.inTensor .overflow)) ∧
      ∀ other, Axis.InRange input.rank other →
        (∀ axis < input.rank,
          Axis.Named input.rank other axis ↔ Axis.Named input.rank axes axis) →
        ∃ again,
          (⟨.reduce (.prim p) other none, [input], [output]⟩ : Node).compile config = .ok again ∧
          again.call [x] = kernel.call [x] := by
  obtain ⟨kernel, compiled, returns, ends⟩ :=
    reduce_represents_or_overflow supported exact axes input output inputType outputType inRange
      outputRank config x valid bounded type rank
  refine ⟨kernel, compiled, fun fits => ?_, ends, fun other otherInRange sameNames => ?_⟩
  · obtain ⟨result, reduced, called, represents, holds⟩ := returns fits
    refine ⟨result, called, represents.valid, represents.elem_eq, represents.shape_eq, ?_⟩
    intro coord inside
    rw [represents.shape_eq] at inside
    refine ⟨reduced coord, represents.get_eq coord inside, holds coord inside, ?_⟩
    intro nothing neutral hasNeutral
    have aggregated := holds coord inside
    rw [nothing] at aggregated
    exact aggregated.unique (p.seed_holds supported e exact neutral hasNeutral)
  · have sameOrder := Axis.highestFirst_congr sameNames
    have sameKept : Axis.kept input.rank other = Axis.kept input.rank axes := by
      refine List.filter_congr ?_
      intro axis below
      simp [sameNames axis (List.mem_range.mp below)]
    obtain ⟨again, againCompiled, againReturns, againEnds⟩ :=
      reduce_represents_or_overflow supported exact other input output inputType outputType
        otherInRange (sameKept ▸ outputRank) config x valid bounded type rank
    refine ⟨again, againCompiled, ?_⟩
    by_cases fits : x.shape.ChainFits (Axis.highestFirst input.rank axes)
    case neg => rw [(ends fits).2, (againEnds (sameOrder ▸ fits)).2]
    obtain ⟨result, reduced, called, represents, holds⟩ := returns fits
    obtain ⟨second, values, againCalled, againRepresents, againHolds⟩ :=
      againReturns (sameOrder ▸ fits)
    rw [sameKept] at againRepresents againHolds
    have same : second = result := by
      refine againRepresents.unique result (represents.congr values ?_)
      intro coord inside
      exact (holds coord inside).unique (againHolds coord inside)
    rw [called, againCalled, same]

/-- A byte array whose first and last axes are summed, with one axis named twice. -/
def outerSums : Tensor := ⟨.i8, [2, 2, 2], .signed #[100, 1, 2, 3, 50, 7, 4, 5]⟩

/-- The sum of four elements of `outerSums` wraps around. Along the second axis of the hollow
    array no sums are formed. -/
theorem reduction_is_joint_aggregate_outer :
    (∃ kernel result s,
      (⟨.reduce (.prim .add) (some [-1, 0, 2]) none, [.dynamic .i8 3], [.dynamic .i8 1]⟩ :
        Node).compile {} = .ok kernel ∧
      kernel.call [outerSums] = .ok (.tensor result) ∧
      result.get [0] = .ok s ∧ s.integer? = some (-98)) ∧
    ∃ kernel,
      (⟨.reduce (.prim .add) (some [1]) none, [.dynamic .i64 3], [.dynamic .i64 2]⟩ :
        Node).compile {} = .ok kernel ∧
      kernel.call [.hollow] = .error (.inTensor .overflow) := by
  constructor
  · obtain ⟨kernel, compiled, returns, -⟩ :=
      reduction_is_joint_aggregate .add (by decide) .i8 rfl (some [-1, 0, 2]) (.dynamic .i8 3)
        (.dynamic .i8 1) rfl rfl (by unfold Axis.InRange; decide) (by decide) {} outerSums
        (by decide) (by decide) rfl rfl
    obtain ⟨result, called, -, -, shape, elements⟩ := returns (by decide)
    obtain ⟨s, read, holds, -⟩ := elements [0] (by rw [shape]; decide)
    exact ⟨kernel, result, s, compiled, called, read, holds.integer_eq⟩
  · obtain ⟨kernel, compiled, -, ends, -⟩ :=
      reduction_is_joint_aggregate .add (by decide) .i64 rfl (some [1]) (.dynamic .i64 3)
        (.dynamic .i64 2) rfl rfl (by unfold Axis.InRange; decide) (by decide) {} .hollow
        (by decide) (by decide) rfl rfl
    exact ⟨kernel, compiled, (ends (by decide)).2⟩

end LoopKernels.Lowering
