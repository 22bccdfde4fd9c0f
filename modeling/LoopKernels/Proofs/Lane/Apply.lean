import LoopKernels.Lane.Apply
import LoopKernels.Proofs.Shape.Axes
import LoopKernels.Proofs.Tensor.Lanes
import LoopKernels.Proofs.Tensor.Transposition

/-!
# What applying along an axis gives

Moving the axis of the lanes last puts their elements side by side, and takes no lane apart:
the lane cut out at the m-th place is the one at the m-th coordinate of the other axes. So the
function is called on the lanes of the array itself, in the order of these coordinates, and
the results are collected in the shape of the other axes. Nothing else can fail, provided that
the strides of the array are words, or the axis is the last one already, and that the other axes
can be counted; otherwise the run ends before any call. All this is said of calls in any monad
that failures lift to, so it holds of calls that are noted as it does of plain ones.
-/

namespace LoopKernels

/-- The axis is the last one, or the strides of the shape are words; and so are the products that
    count the other axes. -/
def Shape.LaneFits (shape : Shape) (axis : Nat) : Prop :=
  (axis + 1 = shape.length ∨ shape.StridesFit) ∧ Shape.CountFits (shape.eraseIdx axis)

instance (shape : Shape) (axis : Nat) : Decidable (shape.LaneFits axis) :=
  inferInstanceAs (Decidable (_ ∧ _))

/-- The lanes of an array without an empty axis can be cut out. -/
theorem Shape.laneFits_of_full {shape : Shape} (full : 0 ∉ shape)
    (counted : shape.count < Word.limit) (axis : Nat) : shape.LaneFits axis :=
  have fits := Shape.reduceFits_of_full full counted axis
  ⟨.inr fits.1, fits.2⟩

namespace AxisApply

variable (a : AxisApply)

/-- The axis of the lanes comes behind all others. -/
theorem isPermutation_order (bound : a.axis < a.rank) :
    Tensor.IsPermutation a.order a.rank := by
  refine Tensor.isPermutation_append (List.nodup_range.filter _) (List.pairwise_singleton _ _) ?_ ?_
  · intro axis listed
    simpa using (List.mem_filter.mp listed).2
  · intro axis
    by_cases same : axis = a.axis
    · simp [Axis.others, Axis.every, same, bound]
    · simp [Axis.others, Axis.every, same]

/-- The axes stand in their order exactly when the axis of the lanes is the last one. -/
theorem order_eq_range (bound : a.axis < a.rank) :
    a.order = List.range a.rank ↔ a.axis + 1 = a.rank := by
  constructor
  · intro ordered
    have last := congrArg List.getLast? ordered
    have rank : a.rank ≠ 0 := by omega
    simp only [order, List.getLast?_append, List.getLast?_singleton, Option.some_or,
      List.getLast?_range, rank, if_false, Option.some.injEq] at last
    omega
  · intro last
    have others : Axis.others a.rank [a.axis] = List.range a.axis := by
      rw [Axis.others, Axis.every, ← last, List.range_succ, List.filter_append]
      simpa using fun k below => Nat.ne_of_lt below
    rw [order, others, ← last, List.range_succ]

/-- Permuted entries are those of the other axes, and then that of the axis. -/
theorem pick_order (xs : List Nat) (sameRank : xs.length = a.rank) (bound : a.axis < a.rank) :
    Tensor.pick xs a.order = xs.eraseIdx a.axis ++ [xs.getD a.axis 0] := by
  have others := eraseAxes_eq_pick [a.axis] xs (List.pairwise_singleton _ _) (by simp; omega)
  rw [order, Tensor.pick_append, ← sameRank, ← others]
  rfl

/-- An index behind a coordinate of the other axes is the one on the axis. -/
theorem unpick_order (rest : Coord) (index : Nat) (sameRank : rest.length + 1 = a.rank)
    (bound : a.axis < a.rank) :
    Tensor.unpick a.order (rest ++ [index]) = rest.insertIdx a.axis index := by
  have place : a.axis ≤ rest.length := by omega
  have length : (rest.insertIdx a.axis index).length = a.rank := by
    rw [List.length_insertIdx_of_le_length place, sameRank]
  have entries := a.pick_order (rest.insertIdx a.axis index) length bound
  rw [List.eraseIdx_insertIdx_self] at entries
  rw [← (a.isPermutation_order bound).unpick_pick _ length, entries]
  simp [List.getElem?_insertIdx_self, place]

variable {a} {t : Tensor}

/-- The lane cut out of the moved array is the lane of the array at the coordinate of the same
    number. -/
theorem cut_lane {moved : Tensor} (valid : t.Valid) (sameRank : t.rank = a.rank)
    (bound : a.axis < a.rank)
    (represents : moved.Represents t.elem
      (t.shape.eraseIdx a.axis ++ [t.shape.getD a.axis 0])
      fun coord => t.element (Tensor.unpick a.order coord))
    (rest : Coord) (inside : Shape.contains (t.shape.eraseIdx a.axis) rest = true) :
    moved.lane (Shape.offset rest (Shape.strides (t.shape.eraseIdx a.axis)) *
      t.shape.getD a.axis 0) (t.shape.getD a.axis 0) = .ok (t.laneAlong a.axis rest) := by
  have inShape : a.axis < t.shape.length := by
    show a.axis < t.rank
    omega
  have length : rest.length + 1 = a.rank := by
    rw [Shape.length_of_contains _ rest inside, List.length_eraseIdx_of_lt inShape, ← sameRank]
    show t.shape.length - 1 + 1 = t.shape.length
    omega
  obtain ⟨cut, done, elements⟩ := represents.lane rest inside
  rw [done]
  refine congrArg Except.ok (elements.unique _ ?_)
  refine (valid.laneAlong_represents a.axis inShape rest inside).congr _ ?_
  intro place placeInside
  obtain ⟨index, rfl⟩ :=
    List.length_eq_one_iff.mp (Shape.length_of_contains _ place placeInside)
  rw [a.unpick_order rest index length bound]
  rfl

/-- With the axis moved last, the other axes come first in their order, and the lane cut out at a
    number is the one at the coordinate of that number. -/
theorem exists_moved (valid : t.Valid) (sameRank : t.rank = a.rank) (bound : a.axis < a.rank)
    (fits : a.axis + 1 = t.shape.length ∨ t.shape.StridesFit) :
    ∃ moved, t.transpose a.order = .ok moved ∧
      moved.shape.take (a.rank - 1) = t.shape.eraseIdx a.axis ∧
      moved.shape.getD (a.rank - 1) 0 = t.shape.getD a.axis 0 ∧
      ∀ m < Shape.count (t.shape.eraseIdx a.axis),
        moved.lane (m * t.shape.getD a.axis 0) (t.shape.getD a.axis 0) =
          .ok (t.laneAlong a.axis (Shape.unravel m (t.shape.eraseIdx a.axis))) := by
  have shapeLength : t.shape.length = a.rank := sameRank
  have permutes : Tensor.IsPermutation a.order t.shape.length := by
    rw [shapeLength]
    exact a.isPermutation_order bound
  have movable : Tensor.TransposeFits t.shape a.order := by
    refine fits.imp_left fun last => ?_
    rw [shapeLength] at last ⊢
    exact (a.order_eq_range bound).mpr last
  obtain ⟨moved, transposed, represents⟩ := valid.represents.transpose permutes movable
  rw [a.pick_order t.shape shapeLength bound] at represents
  have front : (t.shape.eraseIdx a.axis).length = a.rank - 1 := by
    rw [List.length_eraseIdx_of_lt (by omega), shapeLength]
  refine ⟨moved, transposed, ?_, ?_, ?_⟩
  · rw [represents.shape_eq, ← front, List.take_left]
  · rw [represents.shape_eq, ← front]
    simp
  · intro m listed
    obtain ⟨inside, numbered⟩ := Shape.contains_unravel (t.shape.eraseIdx a.axis) m listed
    have cut := cut_lane valid sameRank bound represents _ inside
    rwa [numbered] at cut

/-- As many scalars as a shape has coordinates fill it, if they can all be computed. -/
theorem ofScalars_mapM {α : Type} (elem : ElemType) (shape : Shape) (fits : shape.CountFits)
    (places : List α) (scalar : α → Except KernelError Scalar)
    (sameSize : places.length = Shape.count shape) :
    (do
      let values ← places.mapM scalar
      KernelError.ofTensor (Tensor.ofScalars elem shape values)) =
      (places.mapM scalar).map (Tensor.withScalars elem shape) := by
  cases computed : places.mapM scalar with
  | error e => rfl
  | ok values =>
    have size := Outcome.mapM_length _ _ _ computed
    rw [Outcome.bind_ok, Tensor.ofScalars_ok elem shape values fits (size.trans sameSize)]
    rfl

section Calls

variable {m : Type → Type} [Monad m] [LawfulMonad m] [MonadLiftT (Except KernelError) m]
  [LawfulMonadLiftT (Except KernelError) m]

/-- A value that is lifted is handed on. -/
theorem liftM_ok_bind {α β : Type} (x : α) (next : α → m β) :
    (liftM (Except.ok x : Except KernelError α) : m α) >>= next = next x := by
  have lifted : (liftM (Except.ok x : Except KernelError α) : m α) = pure x := monadLift_pure x
  rw [lifted, pure_bind]

/-- Nothing follows a failure that is lifted. -/
theorem liftM_error_bind {α β : Type} (e : KernelError) (next : α → m β) :
    (liftM (Except.error e : Except KernelError α) : m α) >>= next =
      liftM (Except.error e : Except KernelError β) := by
  -- A failure is one of a computation that could give no value at all.
  have never : ∀ γ : Type, (liftM (Except.error e : Except KernelError γ) : m γ) =
      (liftM (Except.error e : Except KernelError Empty) : m Empty) >>= fun none => none.elim := by
    intro γ
    have lifted := monadLift_bind (m := Except KernelError) (n := m)
      (Except.error e : Except KernelError Empty) (fun none => (none.elim : Except KernelError γ))
    refine lifted.trans (congrArg _ (funext fun none => none.elim))
  rw [never α, never β, bind_assoc]
  exact congrArg _ (funext fun none => none.elim)

/-- The calls are made on the lanes of the array, in the order of the other coordinates. -/
theorem applyWith_eq (call : Tensor → m Scalar) (valid : t.Valid) (sameRank : t.rank = a.rank)
    (bound : a.axis < a.rank) (fits : t.shape.LaneFits a.axis) :
    a.applyWith call t =
      ((Shape.coordinates (t.shape.eraseIdx a.axis)).mapM fun rest =>
        call (t.laneAlong a.axis rest)) >>= fun values =>
        liftM (KernelError.ofTensor
          (Tensor.ofScalars a.elem (t.shape.eraseIdx a.axis) values)) := by
  obtain ⟨moved, transposed, shape, length, lane⟩ := exists_moved valid sameRank bound fits.1
  have lanes : ∀ place ∈ List.range (Shape.count (t.shape.eraseIdx a.axis)),
      (do
        let lane ← liftM (KernelError.ofTensor
          (moved.lane (place * t.shape.getD a.axis 0) (t.shape.getD a.axis 0)))
        call lane : m Scalar) =
        call (t.laneAlong a.axis (Shape.unravel place (t.shape.eraseIdx a.axis))) := by
    intro place listed
    rw [lane place (List.mem_range.mp listed), Outcome.ofTensor_ok]
    exact liftM_ok_bind _ _
  have counted : Shape.elementCount (t.shape.eraseIdx a.axis) =
      .ok (Shape.count (t.shape.eraseIdx a.axis)) := Shape.elementCount_eq_ok.mpr ⟨fits.2, rfl⟩
  rw [applyWith, if_neg (not_not.mpr sameRank), (Outcome.ofTensor_eq_ok _ _).mpr transposed,
    liftM_ok_bind]
  simp only [shape, length, counted, Outcome.ofTensor_ok]
  rw [liftM_ok_bind, Outcome.mapM_congr _ _ _ lanes, Shape.coordinates_eq, List.mapM_map]
  rfl

/-- Where the axis cannot be moved or the other axes cannot be counted, nothing is called. -/
theorem applyWith_overflow (call : Tensor → m Scalar) (valid : t.Valid)
    (sameRank : t.rank = a.rank) (bound : a.axis < a.rank) (tooLarge : ¬ t.shape.LaneFits a.axis) :
    a.applyWith call t =
      liftM (Except.error (.inTensor .overflow) : Except KernelError Tensor) := by
  rw [applyWith, if_neg (not_not.mpr sameRank)]
  by_cases movable : a.axis + 1 = t.shape.length ∨ t.shape.StridesFit
  · obtain ⟨moved, transposed, shape, -, -⟩ := exists_moved valid sameRank bound movable
    have uncounted : ¬ Shape.CountFits (t.shape.eraseIdx a.axis) :=
      fun fits => tooLarge ⟨movable, fits⟩
    rw [(Outcome.ofTensor_eq_ok _ _).mpr transposed, liftM_ok_bind]
    simp only [shape, Shape.elementCount_eq, if_neg uncounted]
    exact liftM_error_bind _ _
  · have permutes : Tensor.IsPermutation a.order t.rank := sameRank ▸ a.isPermutation_order bound
    have unmoved : ¬ Tensor.TransposeFits t.shape a.order := by
      refine mt (Or.imp_left fun ordered => ?_) movable
      rw [show t.shape.length = a.rank from sameRank] at ordered ⊢
      exact (a.order_eq_range bound).mp ordered
    rw [Tensor.transpose_overflow permutes unmoved]
    exact liftM_error_bind _ _

end Calls

/-- Applying along an axis is applying to each lane; the first failure is the result. -/
theorem apply_eq (valid : t.Valid) (sameRank : t.rank = a.rank) (bound : a.axis < a.rank)
    (fits : t.shape.LaneFits a.axis) :
    a.apply t =
      ((Shape.coordinates (t.shape.eraseIdx a.axis)).mapM fun rest =>
        a.function (t.laneAlong a.axis rest)).map
        (Tensor.withScalars a.elem (t.shape.eraseIdx a.axis)) :=
  (applyWith_eq a.function valid sameRank bound fits).trans
    (ofScalars_mapM a.elem _ fits.2 _ _ (Shape.coordinates_length _))

end AxisApply

end LoopKernels
