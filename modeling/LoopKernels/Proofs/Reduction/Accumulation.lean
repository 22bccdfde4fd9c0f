import LoopKernels.Proofs.Reduction.Lanes
import LoopKernels.Proofs.Shape.Axes

/-!
# The accumulator behind each element

A reducer is built from a number that names an axis, an operator and a seed, and is then
run on arrays. What it gives is stated here in terms of reads alone: the element at a
coordinate is the accumulator after the elements along the axis, each read at its own
coordinate, from the first to the last. An axis of length zero leaves the seed, and checks
make no difference. A run fails for another rank, and for a stride or a count that is no
word.
-/

namespace LoopKernels

/-- The accumulator after the elements along an axis, read one by one at a coordinate of the other
    axes. -/
def Tensor.accumulate (t : Tensor) (u : Update) (elem : ElemType) (seed : Scalar) (axis : Nat)
    (rest : Coord) : Except TensorError Scalar :=
  (List.range (t.shape.getD axis 0)).foldlM (fun acc index => do
    let value ← t.get (rest.insertIdx axis index)
    pure (u.apply elem acc value index)) seed

/-- Inside the shape every read succeeds, and the accumulator is the fold of the lane. -/
theorem Tensor.Represents.accumulate_eq {t : Tensor} {e : ElemType} {shape : Shape}
    {value : Coord → Scalar} (represents : t.Represents e shape value) (u : Update)
    (elem : ElemType) (seed : Scalar) (axis : Nat) (bound : axis < shape.length) (rest : Coord)
    (inside : Shape.contains (shape.eraseIdx axis) rest = true) :
    t.accumulate u elem seed axis rest =
      .ok (u.fold elem seed (laneAt axis (shape.getD axis 0) value rest)) := by
  rw [accumulate, represents.shape_eq, List.range_eq_range', Update.fold, laneAt,
    List.range_eq_range']
  apply Update.foldlM_range
  intro index listed
  refine represents.get_eq _ (Shape.contains_insert shape axis index rest bound ?_ inside)
  simpa using listed

namespace AxisReducer

/-- The coordinate of the other axes that an element of the result stands for. -/
def others (r : AxisReducer) (coord : Coord) : Coord :=
  if r.keepDims then coord.eraseIdx r.axis else coord

/-- The array that a reducer gives: its shape is that of the reduced array with the axis removed
    or of length one, and each element is an accumulator, cast. -/
structure Reduces (r : AxisReducer) (t u : Tensor) : Prop where
  valid : u.Valid
  elem_eq : u.elem = r.elem
  shape_eq : u.shape = if r.keepDims then t.shape.set r.axis 1 else t.shape.eraseIdx r.axis
  element : ∀ coord, Shape.contains u.shape coord = true →
    ∃ acc, t.accumulate r.update r.elem r.seed r.axis (r.others coord) = .ok acc ∧
      u.get coord = .ok (acc.cast r.elem)

/-- The result is a plain scalar. -/
def Plain (r : AxisReducer) : Prop :=
  r.rank = 1 ∧ r.returnScalar = true ∧ r.keepDims = false

variable {r : AxisReducer} {t : Tensor}

/-- An array with one axis reduces to the accumulator itself where a plain scalar is asked for. -/
theorem reduce_plain (valid : t.Valid) (checked : Bool) (rank : t.rank = r.rank)
    (bound : r.axis < r.rank) (plain : r.Plain) :
    ∃ acc, t.accumulate r.update r.elem r.seed r.axis [] = .ok acc ∧
      r.reduce t checked = .ok (.scalar acc r.elem) := by
  obtain ⟨one, scalar, removed⟩ := plain
  have inShape : r.axis < t.shape.length := Nat.lt_of_lt_of_eq bound rank.symm
  obtain ⟨-, only⟩ := reduceOne_lane r rank bound (by omega)
  refine ⟨_, valid.represents.accumulate_eq _ _ _ _ inShape [] only, ?_⟩
  have lane := r.reduceLane_eq valid.represents checked inShape [] only
  have single : ¬ 1 < r.rank := by omega
  have readable := (Shape.reduceFits_one (show t.shape.length = 1 from rank.trans one)).1
  simp [reduce, rank, single, Loader.start_eq, readable, reduceOne, lane, removed, scalar]

/-- Every other reduction gives an array. -/
theorem reduce_array (valid : t.Valid) (checked : Bool) (rank : t.rank = r.rank)
    (bound : r.axis < r.rank) (fits : t.shape.ReduceFits r.axis) (array : ¬ r.Plain) :
    ∃ u, r.reduce t checked = .ok (.tensor u) ∧ r.Reduces t u := by
  have inShape : r.axis < t.shape.length := Nat.lt_of_lt_of_eq bound rank.symm
  cases kept : r.keepDims with
  | true =>
    obtain ⟨u, reduced, result⟩ := r.reduce_kept valid.represents checked rank bound fits kept
    refine ⟨u, reduced, result.valid, result.elem_eq, ?_, ?_⟩
    · rw [result.shape_eq, Shape.insertIdx_eraseIdx_set _ _ _ inShape, kept, if_pos rfl]
    · intro coord inside
      rw [result.shape_eq] at inside
      -- Erasing the axis of length one leads back to a coordinate of the other axes.
      have rest : Shape.contains (t.shape.eraseIdx r.axis) (coord.eraseIdx r.axis) = true := by
        have erased := (Shape.contains_eraseIdx _ r.axis coord (by
          rw [Shape.insertIdx_eraseIdx_set _ _ _ inShape, List.length_set]
          exact inShape) inside).2
        rwa [List.eraseIdx_insertIdx_self] at erased
      rw [others, kept, if_pos rfl]
      exact ⟨_, valid.represents.accumulate_eq _ _ _ _ inShape _ rest, result.get_eq coord inside⟩
  | false =>
    have several : 1 < r.rank ∨ r.returnScalar = false := by
      by_contra neither
      simp only [not_or, Bool.not_eq_false] at neither
      exact array ⟨by omega, neither.2, kept⟩
    obtain ⟨u, reduced, result⟩ :=
      r.reduce_removed valid.represents checked rank bound fits kept several
    refine ⟨u, reduced, result.valid, result.elem_eq, ?_, ?_⟩
    · rw [result.shape_eq, kept]
      simp
    · intro coord inside
      rw [result.shape_eq] at inside
      simp only [others, kept, Bool.false_eq_true, if_false]
      exact ⟨_, valid.represents.accumulate_eq _ _ _ _ inShape _ inside, result.get_eq coord inside⟩

/-- The array that a reducer gives is determined by the array that it reduces. -/
theorem Reduces.unique {u v : Tensor} (first : r.Reduces t u) (second : r.Reduces t v) : u = v := by
  have shapes : v.shape = u.shape := second.shape_eq.trans first.shape_eq.symm
  have right := second.valid.represents
  rw [second.elem_eq, ← first.elem_eq, shapes] at right
  refine first.valid.represents.unique v (right.congr _ ?_)
  intro coord inside
  obtain ⟨acc, folded, here⟩ := first.element coord inside
  obtain ⟨other, again, there⟩ := second.element coord (shapes ▸ inside)
  obtain rfl : acc = other := Except.ok.inj (folded.symm.trans again)
  have left := first.valid.represents.get_eq coord inside
  have back := second.valid.represents.get_eq coord (shapes ▸ inside)
  exact Except.ok.inj (back.symm.trans (there.trans (here.symm.trans left)))

/-- Inside an array a check changes nothing, and the rank, the strides and the count are looked at
    before any read. -/
theorem reduce_checked_eq (valid : t.Valid) (bound : r.axis < r.rank) :
    r.reduce t true = r.reduce t false := by
  by_cases rank : t.rank = r.rank
  · by_cases fits : t.shape.ReduceFits r.axis
    · by_cases plain : r.Plain
      · obtain ⟨acc, folded, reduced⟩ := reduce_plain valid true rank bound plain
        obtain ⟨other, again, reducedAgain⟩ := reduce_plain valid false rank bound plain
        obtain rfl : acc = other := Except.ok.inj (folded.symm.trans again)
        rw [reduced, reducedAgain]
      · obtain ⟨u, reduced, result⟩ := reduce_array valid true rank bound fits plain
        obtain ⟨v, reducedAgain, other⟩ := reduce_array valid false rank bound fits plain
        rw [reduced, reducedAgain, result.unique other]
    · rw [r.reduce_overflow t true rank bound fits, r.reduce_overflow t false rank bound fits]
  · simp only [reduce, if_pos rank]

/-- A built reducer has the axis, the update and the seed it was asked for. On a valid array it
    fails exactly for another rank and for a stride or a count that is no word, and checks do not
    change what it does. Otherwise it gives the array of the accumulators, each after the elements
    along the axis in increasing order, or the one accumulator itself where a plain scalar is asked
    for. Only an array without elements can have strides or a count that leave the word. -/
theorem reduce_is_accumulation (op : Operator) (identity : Scalar) (axis : Int) (rank : Nat)
    (elem : ElemType) (keepDims returnScalar : Bool) (r : AxisReducer)
    (built : build op identity axis rank elem keepDims returnScalar = .ok r) (t : Tensor)
    (valid : t.Valid) :
    (Axis.resolve rank axis = .ok r.axis ∧ Update.ofOperator op elem = .ok r.update ∧
      r.seed = identity.seed elem ∧ r.rank = rank ∧ r.elem = elem ∧ r.keepDims = keepDims ∧
      r.returnScalar = returnScalar) ∧
    (∀ checked, (∃ e, r.reduce t checked = .error e) ↔
      t.rank ≠ r.rank ∨ ¬ t.shape.ReduceFits r.axis) ∧
    (∀ checked e, r.reduce t checked = .error e →
      e = .inputRank r.name r.rank t.shape ∧ t.rank ≠ r.rank ∨
        e = .inTensor .overflow ∧ t.rank = r.rank) ∧
    (0 ∉ t.shape → t.shape.ReduceFits r.axis) ∧
    r.reduce t true = r.reduce t false ∧
    (t.rank = r.rank → t.shape.ReduceFits r.axis → ∀ checked,
      (r.Plain → ∃ acc, t.accumulate r.update r.elem r.seed r.axis [] = .ok acc ∧
        r.reduce t checked = .ok (.scalar acc r.elem)) ∧
      (¬ r.Plain → ∃ u, r.reduce t checked = .ok (.tensor u) ∧ r.Reduces t u)) := by
  have fields : Axis.resolve rank axis = .ok r.axis ∧ Update.ofOperator op elem = .ok r.update ∧
      r.seed = identity.seed elem ∧ r.rank = rank ∧ r.elem = elem ∧ r.keepDims = keepDims ∧
      r.returnScalar = returnScalar := by
    obtain ⟨resolved, update, denotes, updates, rfl⟩ := (build_eq_ok _ _ _ _ _ _ _ _).mp built
    exact ⟨denotes, updates, rfl, rfl, rfl, rfl, rfl⟩
  have bound : r.axis < r.rank := by
    rw [fields.2.2.2.1]
    exact ((Axis.resolve_eq_ok rank axis r.axis).mp fields.1).1
  have runs : t.rank = r.rank → t.shape.ReduceFits r.axis → ∀ checked,
      ∃ v, r.reduce t checked = .ok v := by
    intro sameRank fits checked
    by_cases plain : r.Plain
    · obtain ⟨acc, -, reduced⟩ := reduce_plain valid checked sameRank bound plain
      exact ⟨_, reduced⟩
    · obtain ⟨u, reduced, -⟩ := reduce_array valid checked sameRank bound fits plain
      exact ⟨_, reduced⟩
  have refused : ∀ checked, t.rank ≠ r.rank →
      r.reduce t checked = .error (.inputRank r.name r.rank t.shape) :=
    fun checked otherRank => if_pos otherRank
  refine ⟨fields, ?_, ?_, fun full => Shape.reduceFits_of_full full valid.2.2 r.axis,
    reduce_checked_eq valid bound, ?_⟩
  · intro checked
    constructor
    · rintro ⟨e, failed⟩
      by_contra neither
      rw [not_or, not_not, not_not] at neither
      obtain ⟨v, reduced⟩ := runs neither.1 neither.2 checked
      rw [reduced] at failed
      cases failed
    · intro reason
      by_cases sameRank : t.rank = r.rank
      · exact ⟨_, r.reduce_overflow t checked sameRank bound (reason.resolve_left (· sameRank))⟩
      · exact ⟨_, refused checked sameRank⟩
  · intro checked e failed
    by_cases sameRank : t.rank = r.rank
    · by_cases fits : t.shape.ReduceFits r.axis
      · obtain ⟨v, reduced⟩ := runs sameRank fits checked
        rw [reduced] at failed
        cases failed
      · rw [r.reduce_overflow t checked sameRank bound fits] at failed
        exact .inr ⟨(Except.error.inj failed).symm, sameRank⟩
    · rw [refused checked sameRank] at failed
      exact .inl ⟨(Except.error.inj failed).symm, sameRank⟩
  · intro sameRank fits checked
    exact ⟨reduce_plain valid checked sameRank bound,
      reduce_array valid checked sameRank bound fits⟩

/-- Two rows of bytes at the ends of their range. -/
def byteRows : Tensor := ⟨.i8, [2, 3], .signed #[1, 127, -128, 2, 127, -128]⟩

/-- Rows are subtracted from an accumulator that wraps around; their axis is named from the end and
    stays with length one. Without rows nothing is subtracted, and without rows of lengths whose
    product is a word nothing is given. -/
theorem reduce_is_accumulation_rows :
    ∃ r, build (.prim .sub) (.int 100) (-2) 2 .i8 true true = .ok r ∧
      r.reduce byteRows false = .ok (.tensor ⟨.i8, [1, 3], .signed #[97, 102, 100]⟩) ∧
      r.Reduces byteRows ⟨.i8, [1, 3], .signed #[97, 102, 100]⟩ ∧
      (∃ u, r.reduce ⟨.i8, [0, 3], .signed #[]⟩ true = .ok (.tensor u) ∧
        r.Reduces ⟨.i8, [0, 3], .signed #[]⟩ u) ∧
      ∃ wide, build (.prim .sub) (.int 100) 1 3 .i8 true true = .ok wide ∧
        ∃ e, wide.reduce .hollow false = .error e := by
  have built : build (.prim .sub) (.int 100) (-2) 2 .i8 true true =
      .ok ⟨"careduce_sub_axis0", "sub", .sub, .int 100, 0, 2, .i8, true, true⟩ := by decide +kernel
  have wide : build (.prim .sub) (.int 100) 1 3 .i8 true true =
      .ok ⟨"careduce_sub_axis1", "sub", .sub, .int 100, 1, 3, .i8, true, true⟩ := by decide +kernel
  have run : reduce ⟨"careduce_sub_axis0", "sub", .sub, .int 100, 0, 2, .i8, true, true⟩
      byteRows false = .ok (.tensor ⟨.i8, [1, 3], .signed #[97, 102, 100]⟩) := by decide +kernel
  refine ⟨_, built, run, ?_, ?_, _, wide, ?_⟩
  · obtain ⟨-, -, -, -, -, runs⟩ :=
      reduce_is_accumulation _ _ _ _ _ _ _ _ built byteRows (by decide)
    obtain ⟨u, reduced, result⟩ := (runs rfl (by decide) false).2 (by simp [Plain])
    have same : u = ⟨.i8, [1, 3], .signed #[97, 102, 100]⟩ := by
      simpa using reduced.symm.trans run
    exact same ▸ result
  · obtain ⟨-, -, -, -, -, runs⟩ :=
      reduce_is_accumulation _ _ _ _ _ _ _ _ built ⟨.i8, [0, 3], .signed #[]⟩ (by decide)
    exact (runs rfl (by decide) true).2 (by simp [Plain])
  · obtain ⟨-, fails, -⟩ := reduce_is_accumulation _ _ _ _ _ _ _ _ wide .hollow (by decide)
    exact (fails false).mpr (.inr (by decide))

end AxisReducer

end LoopKernels
