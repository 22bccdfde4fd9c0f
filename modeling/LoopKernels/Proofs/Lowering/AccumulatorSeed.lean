import LoopKernels.Proofs.Lowering.JointReduction
import LoopKernels.Proofs.Reduction.Neutrality

/-!
# When the accumulator's type shows in a reduction

A reduction of one axis should give the value of its operator on each lane. It does so
whenever no accumulator type is given. With one, the neutral element is clamped to that
type before it seeds a loop that runs in the type of the elements, and the reduction gives
the values on the lanes exactly when the clamped neutral element is still neutral. The
kernel is built and returns an array in either case, as long as the strides of the array and
the count of the result are words; what can be wrong is its elements.
-/

namespace LoopKernels.Lowering

/-- On every array of the type with a nonempty axis that can be reduced, the kernel removes the axis
    and gives the value of the operator on each lane along it. -/
def EvaluatesLanes (kernel : Kernel) (p : Primitive) (e : ElemType) (rank axis : Nat) : Prop :=
  ∀ x : Tensor, x.Valid → x.InRange → x.elem = e → x.rank = rank → 0 < x.shape.getD axis 0 →
    x.shape.ReduceFits axis → ∃ result, kernel.call [x] = .ok (.tensor result) ∧ result.elem = e ∧
      result.shape = x.shape.eraseIdx axis ∧
      ∀ rest, Shape.contains result.shape rest = true → ∃ s, result.get rest = .ok s ∧
        (Operator.prim p).eval (laneAt axis (x.shape.getD axis 0) x.element rest) e = .ok s

/-- The kernel removes the axis and folds the lanes along it from a seed. -/
def FoldsLanes (kernel : Kernel) (u : Update) (seed : Scalar) (e : ElemType) (rank axis : Nat) :
    Prop :=
  ∀ x : Tensor, x.Valid → x.elem = e → x.rank = rank → x.shape.ReduceFits axis →
    ∃ result, kernel.call [x] = .ok (.tensor result) ∧
      result.Represents e (x.shape.eraseIdx axis) fun rest =>
        (u.fold e seed (laneAt axis (x.shape.getD axis 0) x.element rest)).cast e

variable {p : Primitive} {u : Update} {e : ElemType} {kernel : Kernel} {seed : Scalar}
  {rank axis : Nat}

/-- The elements of a lane are elements of the type. -/
theorem laneAt_holds (x : Tensor) (valid : x.Valid) (bounded : x.InRange)
    (exact : x.elem.isFloat = false) (axis : Nat) (bound : axis < x.rank) (rest : Coord)
    (inside : Shape.contains (x.shape.eraseIdx axis) rest = true) :
    ∀ value ∈ laneAt axis (x.shape.getD axis 0) x.element rest, ∃ n, value.Holds x.elem n := by
  intro value listed
  obtain ⟨index, below, rfl⟩ := List.mem_map.mp listed
  exact ⟨_, valid.holds bounded exact _
    (Shape.contains_insert x.shape axis index rest bound (List.mem_range.mp below) inside)⟩

/-- An array of one lane of one element. -/
theorem unit_lane (rank axis : Nat) (bound : axis < rank) (value : Scalar) (n : Int)
    (held : value.Holds e n) :
    ∃ x : Tensor, x.Valid ∧ x.InRange ∧ x.elem = e ∧ x.rank = rank ∧ x.shape.getD axis 0 = 1 ∧
      x.shape.ReduceFits axis ∧ ∃ rest, Shape.contains (x.shape.eraseIdx axis) rest = true ∧
        laneAt axis (x.shape.getD axis 0) x.element rest = [value] := by
  have full : 0 ∉ List.replicate rank 1 := fun zero => by simpa using List.eq_of_mem_replicate zero
  have counted : Shape.CountFits (List.replicate rank 1) := by
    have none : Shape.CountFits [] := by decide
    simpa using (Shape.countFits_append_ones rank).mpr none
  obtain ⟨x, -, represents⟩ := Tensor.full_represents (List.replicate rank 1) value e counted
  rw [held.cast_self] at represents
  have inShape : axis < (List.replicate rank 1).length := by simpa using bound
  have origin : Shape.contains (List.replicate rank 1) (List.replicate rank 0) = true := by
    rw [Shape.contains_iff_get]
    refine ⟨by simp, ?_⟩
    intro place below
    have place_lt : place < rank := by simpa using below
    simp [place_lt]
  obtain ⟨-, inside⟩ := Shape.contains_eraseIdx _ axis _ inShape origin
  have unit : (List.replicate rank 1).getD axis 0 = 1 := by simp [bound]
  have there : Shape.contains (List.replicate rank 1)
      (((List.replicate rank 0).eraseIdx axis).insertIdx axis 0) = true := by
    refine Shape.contains_insert _ axis 0 _ inShape ?_ inside
    rw [unit]
    decide
  refine ⟨x, represents.valid, ?_, represents.elem_eq, ?_, ?_, ?_,
    (List.replicate rank 0).eraseIdx axis, ?_, ?_⟩
  · intro s stored
    rw [represents.toList_eq] at stored
    obtain ⟨_, _, rfl⟩ := List.mem_map.mp stored
    rw [represents.elem_eq]
    exact held.inBounds_eq
  · simp [Tensor.rank, represents.shape_eq]
  · rw [represents.shape_eq, unit]
  · rw [represents.shape_eq]
    exact Shape.reduceFits_of_full full counted.count_lt axis
  · rw [represents.shape_eq]
    exact inside
  · rw [represents.shape_eq, unit]
    simp [laneAt, represents.element_eq _ there]

/-- A kernel that folds lanes from an element of the type evaluates them exactly when that
    element is neutral. A lane of one element shows any other seed. -/
theorem evaluatesLanes_iff_neutral (supported : p ∈ Primitive.reducing)
    (isUpdate : Update.ofPrimitive? p = some u) (exact : e.isFloat = false) (m : Int)
    (seedHeld : seed.Holds e m) (bound : axis < rank)
    (folds : FoldsLanes kernel u seed e rank axis) :
    EvaluatesLanes kernel p e rank axis ↔ u.Neutral e seed := by
  constructor
  · intro evaluates value n held
    obtain ⟨x, valid, bounded, type, sameRank, unit, fits, rest, inside, lane⟩ :=
      unit_lane rank axis bound value n held
    obtain ⟨result, called, -, shape, elements⟩ :=
      evaluates x valid bounded type sameRank (by omega) fits
    obtain ⟨again, calledAgain, represents⟩ := folds x valid type sameRank fits
    obtain rfl : result = again := by
      have same := called.symm.trans calledAgain
      injection same with same
      injection same
    obtain ⟨s, read, evaluated⟩ := elements rest (by rwa [shape])
    rw [represents.get_eq rest inside, lane] at read
    rw [lane, Primitive.eval_eq_evalOn supported value n held [] (by simp),
      Primitive.evalOn_eq_foldFrom supported isUpdate value n held [] (by simp)] at evaluated
    obtain ⟨r, updated⟩ :=
      Primitive.exists_apply_holds supported isUpdate seed value m n 0 seedHeld held
    rw [← updated.cast_self]
    exact (Except.ok.inj read).trans (Except.ok.inj evaluated).symm
  · intro neutral x valid bounded type sameRank nonempty fits
    obtain ⟨result, called, represents⟩ := folds x valid type sameRank fits
    refine ⟨result, called, represents.elem_eq, represents.shape_eq, ?_⟩
    intro rest inside
    rw [represents.shape_eq] at inside
    have each := laneAt_holds x valid bounded (type ▸ exact) axis (by omega) rest inside
    rw [type] at each
    have someElement : laneAt axis (x.shape.getD axis 0) x.element rest ≠ [] := by
      simp only [laneAt, ne_eq, List.map_eq_nil_iff, List.range_eq_nil]
      omega
    refine ⟨_, represents.get_eq rest inside, ?_⟩
    obtain ⟨r, folded⟩ :=
      Primitive.exists_foldFrom_holds supported isUpdate _ each 0 seed m seedHeld
    rw [Update.fold, folded.cast_self]
    exact (Primitive.neutral_iff_eval supported isUpdate seed).mp neutral _ someElement each

/-- One axis is named, and it alone. -/
theorem only_iff {rank axis : Nat} {axes : Option (List Int)} (bound : axis < rank)
    (only : ∀ other < rank, Axis.Named rank axes other ↔ other = axis) (other : Nat) :
    other < rank ∧ Axis.Named rank axes other ↔ other = axis := by
  constructor
  · intro named
    exact (only other named.1).mp named.2
  · rintro rfl
    exact ⟨bound, (only other bound).mpr rfl⟩

/-- The kernel of a reduction of one axis folds the lanes from the seed that the accumulator's
    type leaves. -/
theorem reduce_foldsLanes (isUpdate : Update.ofPrimitive? p = some u) (exact : e.isFloat = false)
    (identity : Float) (hasNeutral : p.neutral = some identity) (accumulator : Option ElemType)
    (axes : Option (List Int)) (input output : TensorType) (inputType : input.elem = e)
    (outputType : output.elem = e) (inRange : Axis.InRange input.rank axes)
    (bound : axis < input.rank)
    (only : ∀ other < input.rank, Axis.Named input.rank axes other ↔ other = axis)
    (outputRank : output.rank + 1 = input.rank) (config : Config) :
    ∃ kernel,
      (⟨.reduce (.prim p) axes accumulator, [input], [output]⟩ : Node).compile config =
        .ok kernel ∧
      FoldsLanes kernel u (((Scalar.float identity).seed (accumulator.getD e)).seed e) e
        input.rank axis := by
  obtain ⟨resolved, denote, distinct, members⟩ := Axis.resolveAll_ok input.rank axes inRange
  have single : resolved = [axis] := by
    refine List.perm_singleton.mp ((List.perm_ext_iff_of_nodup distinct
      (List.nodup_singleton axis)).mpr fun other => ?_)
    rw [members other, only_iff bound only, List.mem_singleton]
  obtain ⟨reducer, built, ran⟩ := Reducer.build_lanes u isUpdate exact
    ((Scalar.float identity).seed (accumulator.getD e)) config _ input.rank axis (single ▸ denote)
    bound "x"
  refine ⟨⟨reducer.definition, some ⟨[.ofType input], .ofType output, false⟩,
    Options.reduction config⟩, ?_, ?_⟩
  · refine compile_reduce (.prim p) identity hasNeutral axes accumulator input output config
      reducer ?_
    rw [outputType]
    exact built
  · intro x valid type sameRank fits
    have represents := valid.represents
    rw [type] at represents
    obtain ⟨result, returned, folded⟩ :=
      ran (Options.reduction config) x x.shape x.element sameRank fits represents
    refine ⟨result, ?_, folded⟩
    refine Kernel.call_signed _ _ _ _ x result sameRank (type.trans inputType.symm) returned ?_
      (folded.elem_eq.trans outputType.symm)
    have shorter : (x.shape.eraseIdx axis).length + 1 = x.rank :=
      List.length_eraseIdx_add_one (lt_of_lt_of_eq bound sameRank.symm)
    rw [Tensor.rank, folded.shape_eq]
    simp only [ArgType.ofType]
    omega

/-- A reduction of one axis is built and returns an array, whatever the accumulator's type, exactly
    when the strides of the array and the count of the result are words; otherwise its run ends,
    which takes an empty axis. Its elements are the values on the lanes exactly when that type fits
    the type of the elements; equivalently, when the seed that the reducer stores is neutral. -/
theorem reduction_evaluates_lanes_iff (p : Primitive) (supported : p ∈ Primitive.reducing)
    (e : ElemType) (exact : e.isFloat = false) (accumulator : Option ElemType)
    (axes : Option (List Int)) (input output : TensorType) (inputType : input.elem = e)
    (outputType : output.elem = e) (inRange : Axis.InRange input.rank axes) (axis : Nat)
    (bound : axis < input.rank)
    (only : ∀ other < input.rank, Axis.Named input.rank axes other ↔ other = axis)
    (outputRank : output.rank + 1 = input.rank) (config : Config) :
    ∃ kernel,
      (⟨.reduce (.prim p) axes accumulator, [input], [output]⟩ : Node).compile config =
        .ok kernel ∧
      (∀ x : Tensor, x.Valid → x.elem = e → x.rank = input.rank →
        (x.shape.ReduceFits axis →
          ∃ result, kernel.call [x] = .ok (.tensor result) ∧ result.Valid ∧ result.elem = e ∧
            result.shape = x.shape.eraseIdx axis) ∧
        (¬ x.shape.ReduceFits axis →
          0 ∈ x.shape ∧ kernel.call [x] = .error (.inTensor .overflow))) ∧
      (EvaluatesLanes kernel p e input.rank axis ↔
        ∀ type ∈ accumulator, p.seedFits e type = true) ∧
      ∀ identity ∈ p.neutral, ∀ r,
        AxisReducer.build (.prim p) ((Scalar.float identity).seed (accumulator.getD e)) axis
          input.rank e false false = .ok r →
        (r.update.Neutral e r.seed ↔ ∀ type ∈ accumulator, p.seedFits e type = true) := by
  obtain ⟨u, identity, isUpdate, hasNeutral⟩ := Primitive.exists_update supported
  obtain ⟨kernel, compiled, folds⟩ := reduce_foldsLanes isUpdate exact identity hasNeutral
    accumulator axes input output inputType outputType inRange bound only outputRank config
  obtain ⟨m, seedHeld⟩ :=
    Primitive.exists_seeded_holds supported exact identity hasNeutral (accumulator.getD e)
  have neutral :=
    Primitive.seed_neutral_iff supported isUpdate exact identity hasNeutral accumulator
  have accumulates : Update.ofOperator (.prim p) output.elem = .ok u :=
    Update.ofOperator_prim isUpdate (outputType ▸ exact)
  have hasIdentity : (Operator.prim p).neutral = some identity := hasNeutral
  obtain ⟨same, again, ends⟩ :=
    reduce_overflow hasIdentity axes accumulator input output accumulates inRange config
  obtain rfl := Except.ok.inj (compiled.symm.trans again)
  have axesFit : ∀ shape : Shape, shape.ChainFits (Axis.highestFirst input.rank axes) ↔
      shape.ReduceFits axis := by
    intro shape
    rw [Axis.highestFirst_only input.rank axes axis (only_iff bound only)]
    exact and_iff_left trivial
  refine ⟨kernel, compiled, ?_, ?_, ?_⟩
  · intro x valid type sameRank
    refine ⟨fun fits => ?_, fun tooLarge => ⟨by_contra fun full => ?_, ?_⟩⟩
    · obtain ⟨result, called, represents⟩ := folds x valid type sameRank fits
      exact ⟨result, called, represents.valid, represents.elem_eq, represents.shape_eq⟩
    · exact tooLarge (Shape.reduceFits_of_full full valid.2.2 axis)
    · exact ends x valid (type.trans inputType.symm) sameRank ((axesFit x.shape).not.mpr tooLarge)
  · exact (evaluatesLanes_iff_neutral supported isUpdate exact m seedHeld bound folds).trans neutral
  · intro other hasOther r built
    obtain rfl : identity = other := Option.some.inj (hasNeutral.symm.trans hasOther)
    rw [AxisReducer.build_prim p u e (Update.ofOperator_prim isUpdate exact) _ input.rank axis axis
      (Axis.resolve_natCast input.rank axis bound)] at built
    obtain rfl := Except.ok.inj built
    exact neutral

/-- A maximum of long integers whose accumulator is declared a byte. -/
def byteMaximum : Node :=
  ⟨.reduce (.prim .maximum) (some [0]) (some .i8), [.dynamic .i64 1], [.dynamic .i64 0]⟩

/-- The greatest of one long integer, accumulated from the least byte, is that byte. -/
theorem reduction_evaluates_lanes_iff_byte :
    ∃ kernel, byteMaximum.compile {} = .ok kernel ∧
      kernel.call [⟨.i64, [1], .signed #[-1000]⟩] = .ok (.tensor ⟨.i64, [], .signed #[-128]⟩) ∧
      (Operator.prim .maximum).eval [.int (-1000)] .i64 = .ok (.int (-1000)) ∧
      ¬ EvaluatesLanes kernel .maximum .i64 1 0 := by
  obtain ⟨kernel, compiled, -, evaluates, -⟩ :=
    reduction_evaluates_lanes_iff .maximum (by decide) .i64 rfl (some .i8) (some [0])
      (.dynamic .i64 1) (.dynamic .i64 0) rfl rfl (by unfold Axis.InRange; decide) 0 (by decide)
      (by decide) rfl {}
  have ran : (byteMaximum.compile {} >>= fun kernel =>
      kernel.call [⟨.i64, [1], .signed #[-1000]⟩]) =
      .ok (.tensor ⟨.i64, [], .signed #[-128]⟩) := by
    decide +kernel
  have same : byteMaximum.compile {} = .ok kernel := compiled
  rw [same] at ran
  exact ⟨kernel, compiled, ran, rfl, fun all => absurd (evaluates.mp all .i8 rfl) (by decide)⟩

end LoopKernels.Lowering
