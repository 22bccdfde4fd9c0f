import LoopKernels.Reduction.Axis
import LoopKernels.Proofs.Tensor.Representation

/-!
# What reducing one axis gives

The reduction of an axis is a function of lanes: at each coordinate of the other axes
the elements along the axis are folded in increasing order, from the seed on. This
holds for every rank, for checked and for unchecked reads, and whether the axis is
removed or kept with length one.

Before any element is read, the strides of the array are formed and the elements of the
result are counted. Both are done for arrays without elements too, and there they may
leave the word.
-/

namespace LoopKernels

/-- The elements along an axis, at a coordinate of the other axes. -/
def laneAt (axis length : Nat) (value : Coord → Scalar) (rest : Coord) : List Scalar :=
  (List.range length).map fun index => value (rest.insertIdx axis index)

/-- The strides of a shape are words, and so are the products that count it without an axis. -/
def Shape.ReduceFits (shape : Shape) (axis : Nat) : Prop :=
  shape.StridesFit ∧ Shape.CountFits (shape.eraseIdx axis)

instance (shape : Shape) (axis : Nat) : Decidable (shape.ReduceFits axis) :=
  inferInstanceAs (Decidable (_ ∧ _))

/-- An array with one axis can always be reduced. -/
theorem Shape.reduceFits_one {shape : Shape} (one : shape.length = 1) : shape.ReduceFits 0 := by
  obtain ⟨length, rfl⟩ := List.length_eq_one_iff.mp one
  exact ⟨Shape.stridesFit_singleton length, show Shape.CountFits [] by decide⟩

/-- An array without an empty axis can be reduced. -/
theorem Shape.reduceFits_of_full {shape : Shape} (full : 0 ∉ shape)
    (counted : shape.count < Word.limit) (axis : Nat) : shape.ReduceFits axis := by
  have part := List.eraseIdx_sublist shape axis
  refine ⟨Shape.stridesFit_of_full full counted, ?_⟩
  exact Shape.countFits_of_full (fun empty => full (part.subset empty))
    (Nat.lt_of_le_of_lt (Shape.count_le_of_sublist full part) counted)

/-- Axes can be reduced one after the other, each from the shape that those before it leave. -/
def Shape.ChainFits (shape : Shape) : List Nat → Prop
  | [] => True
  | axis :: rest => shape.ReduceFits axis ∧ Shape.ChainFits (shape.eraseIdx axis) rest

instance Shape.decidableChainFits : (shape : Shape) → (axes : List Nat) →
    Decidable (shape.ChainFits axes)
  | _, [] => .isTrue trivial
  | shape, axis :: rest =>
    @instDecidableAnd _ _ _ (decidableChainFits (shape.eraseIdx axis) rest)

/-- The axes of an array without an empty axis can be reduced one after the other. -/
theorem Shape.chainFits_of_full (axes : List Nat) {shape : Shape} (full : 0 ∉ shape)
    (counted : shape.count < Word.limit) : shape.ChainFits axes := by
  induction axes generalizing shape with
  | nil => trivial
  | cons axis rest inductionHypothesis =>
    have part := List.eraseIdx_sublist shape axis
    exact ⟨Shape.reduceFits_of_full full counted axis,
      inductionHypothesis (fun empty => full (part.subset empty))
        (Nat.lt_of_le_of_lt (Shape.count_le_of_sublist full part) counted)⟩

/-- A number below the rank denotes its own axis. -/
theorem Axis.resolve_natCast (rank axis : Nat) (bound : axis < rank) :
    Axis.resolve rank (axis : Int) = .ok axis := by
  have nonnegative : ¬ (axis : Int) < 0 := by omega
  have inside : ¬ ((axis : Int) < 0 ∨ (rank : Int) ≤ axis) := by omega
  simp only [Axis.resolve, if_neg nonnegative, if_neg inside, Int.toNat_natCast]

/-- An operator with an update accumulates into any type that is not a float. -/
theorem Update.ofOperator_prim {p : Primitive} {u : Update} {e : ElemType}
    (isUpdate : ofPrimitive? p = some u) (exact : e.isFloat = false) :
    ofOperator (.prim p) e = .ok u := by
  simp [ofOperator, ofOperator?, isUpdate, exact]

/-- A reducer is built for a number that names an axis and an operator that accumulates, and holds
    what was asked for. -/
theorem AxisReducer.build_eq_ok (op : Operator) (seed : Scalar) (axis : Int) (rank : Nat)
    (elem : ElemType) (keepDims returnScalar : Bool) (r : AxisReducer) :
    build op seed axis rank elem keepDims returnScalar = .ok r ↔
      ∃ resolved update, Axis.resolve rank axis = .ok resolved ∧
        Update.ofOperator op elem = .ok update ∧
        r = ⟨"careduce_" ++ op.name ++ "_axis" ++ toString resolved, op.name, update,
          seed.seed elem, resolved, rank, elem, keepDims, returnScalar⟩ := by
  simp only [build, Outcome.bind_eq_ok, Outcome.ofAxis_eq_ok, Outcome.pure_ok, Except.ok.injEq,
    exists_and_left, eq_comm (a := r)]

/-- A reducer of an axis in range is built as asked. -/
theorem AxisReducer.build_prim (p : Primitive) (u : Update) (e : ElemType)
    (accumulates : Update.ofOperator (.prim p) e = .ok u) (seed : Scalar) (rank : Nat) (axis : Int)
    (resolved : Nat) (denotes : Axis.resolve rank axis = .ok resolved)
    (keepDims returnScalar : Bool) :
    AxisReducer.build (.prim p) seed axis rank e keepDims returnScalar =
      .ok ⟨"careduce_" ++ p.name ++ "_axis" ++ toString resolved, p.name, u, seed.seed e, resolved,
        rank, e, keepDims, returnScalar⟩ := by
  exact (build_eq_ok _ _ _ _ _ _ _ _).mpr ⟨resolved, u, denotes, accumulates, rfl⟩

/-- A reducer compiled as a step reduces without checks. -/
theorem AxisReducer.stepKernel_call (r : AxisReducer) (config : Config) (t : Tensor) :
    (r.stepKernel config).call [t] = r.reduce t false := rfl

variable {t : Tensor} {elem : ElemType} {shape : Shape} {value : Coord → Scalar}

/-- The reads of an array start with its strides. -/
theorem Loader.start_eq (t : Tensor) (checked : Bool) :
    Loader.start t checked =
      if t.shape.StridesFit then .ok ⟨t, Shape.strides t.shape, checked⟩
      else .error (.inTensor .overflow) := by
  rw [start, Tensor.strides_eq]
  split <;> rfl

/-- The reads of an array whose strides are words start with the strides of its shape. -/
theorem Tensor.Represents.start_eq (represents : t.Represents elem shape value) (checked : Bool)
    (readable : shape.StridesFit) :
    Loader.start t checked = .ok ⟨t, Shape.strides shape, checked⟩ := by
  rw [Loader.start_eq, represents.shape_eq, if_pos readable]

/-- Checked and unchecked reads agree inside the shape. -/
theorem Tensor.Represents.load_eq (represents : t.Represents elem shape value) (checked : Bool)
    (coord : Coord) (inside : Shape.contains shape coord = true) :
    (Loader.mk t (Shape.strides shape) checked).load coord = .ok (value coord) := by
  cases checked with
  | true => simp [Loader.load, represents.get_eq coord inside]
  | false => simp [Loader.load, represents.flat?_eq coord inside]

/-- Reading an element and updating the accumulator, index by index, is folding the elements
    read. -/
theorem Update.foldlM_range {ε : Type} (u : Update) (elem : ElemType) (read : Nat → Except ε Scalar)
    (value : Nat → Scalar) (start count : Nat) (acc : Scalar)
    (reads : ∀ index ∈ List.range' start count, read index = .ok (value index)) :
    (List.range' start count).foldlM (fun acc index => do
        let element ← read index
        pure (u.apply elem acc element index)) acc =
      .ok (u.foldFrom elem start acc ((List.range' start count).map value)) := by
  induction count generalizing start acc with
  | zero => rfl
  | succ count inductionHypothesis =>
    rw [List.range'_succ, List.forall_mem_cons] at reads
    rw [List.range'_succ, List.foldlM_cons, reads.1]
    exact inductionHypothesis (start + 1) _ reads.2

namespace AxisReducer

/-- The element at a coordinate of the other axes is the fold of its lane. -/
theorem reduceLane_eq (r : AxisReducer) (represents : t.Represents elem shape value)
    (checked : Bool) (bound : r.axis < shape.length) (rest : Coord)
    (inside : Shape.contains (shape.eraseIdx r.axis) rest = true) :
    r.reduceLane ⟨t, Shape.strides shape, checked⟩ rest =
      .ok (r.update.fold r.elem r.seed (laneAt r.axis (shape.getD r.axis 0) value rest)) := by
  rw [reduceLane, represents.shape_eq, List.range_eq_range', Update.fold, laneAt,
    List.range_eq_range']
  apply Update.foldlM_range
  intro index listed
  refine represents.load_eq checked _ ?_
  exact Shape.contains_insert shape r.axis index rest bound (by simpa using listed) inside

/-- Filling position after position is writing the reduced elements one after the other.

    Induction on the coordinates still to come. -/
theorem foldlM_fill (r : AxisReducer) (l : Loader) (folded : Coord → Scalar) (coords : List Coord)
    (start : Nat) (result : Tensor)
    (lanes : ∀ rest ∈ coords, r.reduceLane l rest = .ok (folded rest)) :
    (coords.zipIdx start).foldlM (r.fill l) result =
      KernelError.ofTensor (result.overwrite start (coords.map folded)) := by
  induction coords generalizing start result with
  | nil => rfl
  | cons rest coords inductionHypothesis =>
    rw [List.forall_mem_cons] at lanes
    rw [List.zipIdx_cons, List.foldlM_cons, fill, lanes.1, Outcome.bind_ok, List.map_cons,
      Tensor.overwrite]
    cases result.setFlat start (folded rest) with
    | error e => rfl
    | ok written => exact inductionHypothesis (start + 1) written lanes.2

/-- The folds of the lanes, before the reduced axis is put back or not. -/
theorem filled_eq (r : AxisReducer) (represents : t.Represents elem shape value)
    (checked : Bool) (bound : r.axis < shape.length)
    (fits : Shape.CountFits (shape.eraseIdx r.axis)) :
    (do
      let blank ← KernelError.ofTensor (Tensor.full (shape.eraseIdx r.axis) r.seed r.elem)
      (Shape.coordinates (shape.eraseIdx r.axis)).zipIdx.foldlM
        (r.fill ⟨t, Shape.strides shape, checked⟩) blank) =
      .ok (Tensor.withScalars r.elem (shape.eraseIdx r.axis)
        ((Shape.coordinates (shape.eraseIdx r.axis)).map fun rest =>
          r.update.fold r.elem r.seed (laneAt r.axis (shape.getD r.axis 0) value rest))) := by
  obtain ⟨blank, made, blanks⟩ := Tensor.full_represents (shape.eraseIdx r.axis) r.seed r.elem fits
  rw [made, Outcome.ofTensor_ok, Outcome.bind_ok,
    r.foldlM_fill _ _ _ 0 blank fun rest listed =>
      r.reduceLane_eq represents checked bound rest ((Shape.mem_coordinates _ rest).mp listed),
    Tensor.overwrite_all blank blanks.valid _ (by simp [blanks.shape_eq]), blanks.elem_eq,
    blanks.shape_eq, Outcome.ofTensor_ok]

/-- An array with one axis has one lane, at the empty coordinate. -/
theorem reduceOne_lane (r : AxisReducer) (sameRank : shape.length = r.rank)
    (bound : r.axis < r.rank) (low : ¬ 1 < r.rank) :
    shape.eraseIdx r.axis = [] ∧ Shape.contains (shape.eraseIdx r.axis) [] = true := by
  have first : r.axis = 0 := by omega
  have erased : shape.eraseIdx r.axis = [] := by
    rw [← List.length_eq_zero_iff, List.length_eraseIdx_of_lt (by omega)]
    omega
  exact ⟨erased, by simp [erased]⟩

/-- Removing the reduced axis: the result has the other axes, and each of its elements is
    the fold of a lane. Only the last axis of an array can leave a plain scalar. -/
theorem reduce_removed (r : AxisReducer) (represents : t.Represents elem shape value)
    (checked : Bool) (sameRank : shape.length = r.rank) (bound : r.axis < r.rank)
    (fits : shape.ReduceFits r.axis) (removed : r.keepDims = false)
    (array : 1 < r.rank ∨ r.returnScalar = false) :
    ∃ u, r.reduce t checked = .ok (.tensor u) ∧
      u.Represents r.elem (shape.eraseIdx r.axis) fun rest =>
        (r.update.fold r.elem r.seed (laneAt r.axis (shape.getD r.axis 0) value rest)).cast
          r.elem := by
  have rank : t.rank = r.rank := by rw [Tensor.rank, represents.shape_eq, sameRank]
  have inShape : r.axis < shape.length := by omega
  have started := represents.start_eq checked fits.1
  by_cases several : 1 < r.rank
  · refine ⟨_, ?_, Tensor.withScalars_represents r.elem (shape.eraseIdx r.axis) _ fits.2.count_lt⟩
    have filled := r.filled_eq represents checked inShape fits.2
    obtain ⟨blank, made, ran⟩ := (Outcome.bind_eq_ok _ _ _).mp filled
    simp only [reduce, rank, several, started, reduceMany, represents.shape_eq, made, ran, removed,
      ne_eq, not_true_eq_false, Bool.false_eq_true, if_true, if_false, Outcome.bind_ok,
      Outcome.pure_ok]
  · obtain ⟨erased, only⟩ := reduceOne_lane r sameRank bound several
    have lane := r.reduceLane_eq represents checked inShape [] only
    rw [erased]
    refine ⟨Tensor.single (r.update.fold r.elem r.seed
      (laneAt r.axis (shape.getD r.axis 0) value [])) r.elem, ?_,
      (Tensor.single_represents _ r.elem).congr _ fun rest inside => ?_⟩
    · simp [reduce, rank, several, started, reduceOne, lane, removed,
        array.resolve_left several]
    · rw [(Shape.contains_nil rest).mp inside]

/-- Keeping the reduced axis with length one: the result ignores the index on that axis. -/
theorem reduce_kept (r : AxisReducer) (represents : t.Represents elem shape value)
    (checked : Bool) (sameRank : shape.length = r.rank) (bound : r.axis < r.rank)
    (fits : shape.ReduceFits r.axis) (kept : r.keepDims = true) :
    ∃ u, r.reduce t checked = .ok (.tensor u) ∧
      u.Represents r.elem ((shape.eraseIdx r.axis).insertIdx r.axis 1) fun coord =>
        (r.update.fold r.elem r.seed
          (laneAt r.axis (shape.getD r.axis 0) value (coord.eraseIdx r.axis))).cast r.elem := by
  have rank : t.rank = r.rank := by rw [Tensor.rank, represents.shape_eq, sameRank]
  have inShape : r.axis < shape.length := by omega
  have started := represents.start_eq checked fits.1
  by_cases several : 1 < r.rank
  · have place : r.axis ≤ (shape.eraseIdx r.axis).length := by
      rw [List.length_eraseIdx_of_lt inShape]
      omega
    obtain ⟨u, expanded, result⟩ :=
      (Tensor.withScalars_represents r.elem (shape.eraseIdx r.axis) (fun rest =>
        r.update.fold r.elem r.seed
          (laneAt r.axis (shape.getD r.axis 0) value rest)) fits.2.count_lt).expandDims r.axis
        place fits.2
    refine ⟨u, ?_, result⟩
    have filled := r.filled_eq represents checked inShape fits.2
    obtain ⟨blank, made, ran⟩ := (Outcome.bind_eq_ok _ _ _).mp filled
    simp only [reduce, rank, several, started, reduceMany, represents.shape_eq, made, ran, kept,
      expanded, ne_eq, not_true_eq_false, if_true, if_false, Outcome.bind_ok, Outcome.pure_ok,
      Outcome.ofTensor_ok]
  · obtain ⟨erased, only⟩ := reduceOne_lane r sameRank bound several
    have lane := r.reduceLane_eq represents checked inShape [] only
    have first : r.axis = 0 := by omega
    obtain ⟨u, made, result⟩ := Tensor.full_represents [1] (r.update.fold r.elem r.seed
      (laneAt r.axis (shape.getD r.axis 0) value [])) r.elem (by decide)
    rw [erased, first, List.insertIdx_zero]
    refine ⟨u, ?_, result.congr _ fun coord inside => ?_⟩
    · simp only [reduce, rank, several, started, reduceOne, lane, kept, made, ne_eq,
        not_true_eq_false, if_true, if_false, Outcome.bind_ok, Outcome.pure_ok,
        Outcome.ofTensor_ok]
    · have unit : coord.length = 1 := Shape.length_of_contains [1] coord inside
      obtain ⟨index, rfl⟩ := List.length_eq_one_iff.mp unit
      simp [first]

/-- A stride or a count that is no word ends the reduction of an array of the declared rank. -/
theorem reduce_overflow (r : AxisReducer) (t : Tensor) (checked : Bool) (rank : t.rank = r.rank)
    (bound : r.axis < r.rank) (tooLarge : ¬ t.shape.ReduceFits r.axis) :
    r.reduce t checked = .error (.inTensor .overflow) := by
  rw [reduce, if_neg (not_not.mpr rank), Loader.start_eq]
  by_cases readable : t.shape.StridesFit
  · have uncounted : ¬ Shape.CountFits (t.shape.eraseIdx r.axis) :=
      fun fits => tooLarge ⟨readable, fits⟩
    have several : 1 < r.rank := by
      by_contra few
      have first : r.axis = 0 := by omega
      exact tooLarge (first ▸ Shape.reduceFits_one (show t.rank = 1 by omega))
    rw [if_pos readable, Outcome.bind_ok, if_pos several, reduceMany, Tensor.full,
      Shape.elementCount_eq, if_neg uncounted]
    rfl
  · rw [if_neg readable]
    rfl

end AxisReducer

end LoopKernels
