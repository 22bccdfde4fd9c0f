import LoopKernels.Proofs.Elementwise.Agreement
import Mathlib.Tactic.Choose

/-!
# The meaning of a batched evaluation

The batched evaluation is described by reads and by the scalar kernel alone. It returns an
array exactly when the inputs match their patterns, the strides of the inputs and the count of
the output are words, and the scalar kernel gives a value at every coordinate; the array then
holds these values, each computed from the elements that the inputs have at the coordinate,
read at zero on the flagged axes.

The positions of the output may be visited in any order and at the same time. A loop over
them collects the values in order, and reports the error of some position that has one. Which
loop runs, and whether a buffer is taken over, cannot be seen
in an array that is returned.
-/

namespace LoopKernels

namespace Loop

/-- What a loop owes to its caller, in whatever order it visits the positions: all the values in
    order, or the error of a position. With several errors it may report any of them. -/
structure Collects (loop : Loop) : Prop where
  gathers : ∀ count compute value, (∀ position < count, compute position = .ok (value position)) →
    loop count compute = .ok ((List.range count).map value)
  reports : ∀ count compute, (∃ position < count, ∃ e, compute position = .error e) →
    ∃ position < count, ∃ e, compute position = .error e ∧ loop count compute = .error e

/-- The loop from the first place to the last collects. -/
theorem serial_collects : serial.Collects where
  gathers count compute value each :=
    Outcome.mapM_ok _ _ _ fun position listed => each position (List.mem_range.mp listed)
  reports count compute failing := by
    cases run : serial count compute with
    | error e =>
      obtain ⟨position, listed, failed⟩ := Outcome.exists_of_mapM_error _ _ _ run
      exact ⟨position, List.mem_range.mp listed, e, failed, rfl⟩
    | ok values =>
      obtain ⟨position, bound, e, failed⟩ := failing
      obtain ⟨value, computed⟩ := (Outcome.exists_mapM_iff compute (List.range count)).mp
        ⟨values, run⟩ position (List.mem_range.mpr bound)
      simp [failed] at computed

/-- Loops that collect return the same values: all positions give one, or some position fails in
    both. -/
theorem Collects.eq_ok_iff {loop other : Loop} (collects : loop.Collects)
    (otherCollects : other.Collects) (count : Nat) (compute : Nat → Except KernelError Scalar)
    (values : List Scalar) :
    loop count compute = .ok values ↔ other count compute = .ok values := by
  by_cases each : ∀ position < count, ∃ value, compute position = .ok value
  · have : Nonempty Scalar := ⟨.int 0⟩
    choose! value computed using each
    rw [collects.gathers count compute value computed,
      otherCollects.gathers count compute value computed]
  · have failing : ∃ position < count, ∃ e, compute position = .error e := by
      simp only [not_forall] at each
      obtain ⟨position, bound, none⟩ := each
      refine ⟨position, bound, ?_⟩
      cases result : compute position with
      | error e => exact ⟨e, rfl⟩
      | ok value => exact absurd ⟨value, result⟩ none
    obtain ⟨_, _, _, _, failed⟩ := collects.reports count compute failing
    obtain ⟨_, _, _, _, otherFailed⟩ := otherCollects.reports count compute failing
    simp [failed, otherFailed]

/-- The loop of a target, the loop of the pool of threads being given. -/
def onTarget (pool : Loop) : Target → Loop
  | .cpu => serial
  | .parallel => pool

/-- A target runs one of two loops, and both collect. -/
theorem Collects.onTarget {pool : Loop} (collects : pool.Collects) (target : Target) :
    (pool.onTarget target).Collects := by
  cases target with
  | cpu => exact serial_collects
  | parallel => exact collects

end Loop

namespace Vectorized

/-- Loops that collect return the same arrays. -/
theorem evalBy_congr {loop other : Loop} (collects : loop.Collects)
    (otherCollects : other.Collects) (core : OutputStore) (plan : BatchPlan)
    (inputs : List Tensor) (out : Tensor) :
    evalBy loop core plan inputs = .ok out ↔ evalBy other core plan inputs = .ok out := by
  have sameValues : ∀ shape values, valuesBy loop core shape inputs = .ok values ↔
      valuesBy other core shape inputs = .ok values := by
    intro shape values
    simp only [valuesBy, Outcome.bind_eq_ok]
    refine exists_congr fun strides => and_congr_right fun _ => ?_
    refine exists_congr fun count => and_congr_right fun _ => ?_
    exact collects.eq_ok_iff otherCollects _ _ values
  by_cases sameCount : inputs.length = plan.inputPatterns.length
  · cases types : plan.outputTypes with
    | nil => simp [evalBy, sameCount, types]
    | cons elem others =>
      simp only [evalBy, sameCount, types, ne_eq, not_true_eq_false, if_false,
        Outcome.bind_eq_ok, sameValues]
  · simp [evalBy, sameCount]

/-- The loop leaves no trace in an array that is returned. -/
theorem evalBy_eq_ok_iff {loop : Loop} (collects : loop.Collects) (core : OutputStore)
    (plan : BatchPlan) (inputs : List Tensor) (out : Tensor) :
    evalBy loop core plan inputs = .ok out ↔ eval core plan inputs = .ok out :=
  evalBy_congr collects Loop.serial_collects core plan inputs out

/-- Inputs and patterns have one rank; flagged axes have length one, and the inputs that are not
    flagged on an axis have the same length there. -/
structure Matched (entries : List PatternedInput) (rank : Nat) : Prop where
  ranks : ∀ entry ∈ entries, entry.1.rank = rank ∧ entry.2.length = rank
  flagged : ∀ entry ∈ entries, ∀ axis < rank, entry.flags axis = true → entry.length axis = 1
  agree : ∀ entry ∈ entries, ∀ other ∈ entries, ∀ axis < rank, entry.flags axis = false →
    other.flags axis = false → entry.length axis = other.length axis

/-- The length of the first input that is not flagged on an axis, or one. -/
def commonLength (entries : List PatternedInput) (axis : Nat) : Nat :=
  ((entries.find? fun entry => !entry.flags axis).map (·.length axis)).getD 1

/-- The common lengths on all axes. -/
def commonShape (entries : List PatternedInput) (rank : Nat) : Shape :=
  (List.range rank).map (commonLength entries)

/-- A coordinate with its flagged axes set to zero. -/
def grounded (pattern : List Bool) (coord : Coord) : Coord :=
  List.zipWith (fun flag index => if flag then 0 else index) pattern coord

/-- The scalar kernel on the elements of the inputs, each read at zero on its flagged axes. -/
def elementAt (kernel : ScalarKernel) (entries : List PatternedInput) (coord : Coord) :
    Except KernelError Scalar := do
  let args ← entries.mapM fun entry => KernelError.ofTensor (entry.1.get (grounded entry.2 coord))
  kernel.eval args

/-- The common length is that of every input that is not flagged on the axis. -/
theorem commonLength_of_unflagged {entries : List PatternedInput} {axis length : Nat}
    (same : ∀ entry ∈ entries, entry.flags axis = false → entry.length axis = length)
    {entry : PatternedInput} (listed : entry ∈ entries) (flags : entry.flags axis = false) :
    commonLength entries axis = length := by
  cases found : entries.find? fun entry => !entry.flags axis with
  | none =>
    have all := List.find?_eq_none.mp found entry listed
    simp [flags] at all
  | some first =>
    have unflagged : first.flags axis = false := by simpa using List.find?_some found
    simp [commonLength, found, same first (List.mem_of_find?_eq_some found) unflagged]

/-- Where all inputs are flagged, the common length is one. -/
theorem commonLength_of_flagged {entries : List PatternedInput} {axis : Nat}
    (all : ∀ entry ∈ entries, entry.flags axis = true) : commonLength entries axis = 1 := by
  have none : entries.find? (fun entry => !entry.flags axis) = none := by
    rw [List.find?_eq_none]
    intro entry listed
    simp [all entry listed]
  simp [commonLength, none]

/-- Inputs are aligned to one shape at most: that of the lengths which are not flagged. -/
theorem aligned_iff_matched (entries : List PatternedInput) (shape : Shape) :
    Aligned entries shape ↔
      Matched entries shape.length ∧ shape = commonShape entries shape.length := by
  have lengths : shape = commonShape entries shape.length ↔
      ∀ axis < shape.length, shape.getD axis 0 = commonLength entries axis := by
    constructor
    · intro same axis bound
      rw [same]
      simp [commonShape, bound]
    · intro each
      refine List.ext_getElem (by simp [commonShape]) ?_
      intro axis bound _
      have here := each axis bound
      simpa [commonShape, bound] using here
  rw [lengths]
  constructor
  · intro aligned
    refine ⟨⟨aligned.ranks, aligned.flagged, ?_⟩, ?_⟩
    · intro entry listed other otherListed axis bound flags otherFlags
      rw [aligned.unflagged entry listed axis bound flags,
        aligned.unflagged other otherListed axis bound otherFlags]
    · intro axis bound
      by_cases all : ∀ entry ∈ entries, entry.flags axis = true
      · rw [aligned.free axis bound all, commonLength_of_flagged all]
      · obtain ⟨entry, listed, flags⟩ : ∃ entry ∈ entries, entry.flags axis = false := by
          simpa using all
        exact (commonLength_of_unflagged
          (fun entry listed => aligned.unflagged entry listed axis bound) listed flags).symm
  · rintro ⟨matched, common⟩
    refine ⟨matched.ranks, matched.flagged, ?_, ?_⟩
    · intro entry listed axis bound flags
      rw [common axis bound]
      refine (commonLength_of_unflagged ?_ listed flags).symm
      intro other otherListed otherFlags
      exact matched.agree other otherListed entry listed axis bound otherFlags flags
    · intro axis bound all
      rw [common axis bound, commonLength_of_flagged all]

/-- Setting flagged axes to zero leads into an input and is what stretching it does: an axis that
    is not flagged has the length of the output, and length one leaves only zero. -/
theorem grounded_eq_shrink {entries : List PatternedInput} {shape : Shape}
    (aligned : Aligned entries shape) {entry : PatternedInput} (listed : entry ∈ entries)
    {coord : Coord} (inside : Shape.contains shape coord = true) :
    grounded entry.2 coord = Shape.shrink entry.1.shape coord := by
  obtain ⟨rank, patternRank⟩ := aligned.ranks entry listed
  rw [Tensor.rank] at rank
  obtain ⟨coordRank, below⟩ := (Shape.contains_iff_get shape coord).mp inside
  rw [grounded, Shape.shrink, rank, coordRank, Nat.sub_self, List.drop_zero]
  refine List.ext_getElem (by simp [rank, patternRank]) ?_
  intro axis here there
  have bound : axis < shape.length := by
    rw [List.length_zipWith] at here
    omega
  have inCoord : axis < coord.length := by omega
  have inPattern : axis < entry.2.length := by omega
  have inInput : axis < entry.1.shape.length := by omega
  have index := below axis bound
  have one := aligned.flagged entry listed axis bound
  have same := aligned.unflagged entry listed axis bound
  simp only [PatternedInput.flags, PatternedInput.length, List.getD_eq_getElem?_getD,
    List.getElem?_eq_getElem, bound, inCoord, inPattern, inInput, Option.getD_some]
    at index one same
  simp only [List.getElem_zipWith]
  cases flag : entry.2[axis] with
  | true => simp [one flag]
  | false =>
    rw [same flag]
    by_cases unit : shape[axis] = 1
    · simp only [unit, if_true, Bool.false_eq_true, if_false]
      omega
    · simp [unit]

/-- For aligned inputs the element read at zero on flagged axes is the one of stretched inputs. -/
theorem elementAt_eq {inputs : List Tensor} {patterns : List (List Bool)} {shape : Shape}
    (kernel : ScalarKernel) (valid : ∀ t ∈ inputs, t.Valid)
    (sameCount : inputs.length = patterns.length)
    (aligned : Aligned (inputs.zip patterns) shape) {coord : Coord}
    (inside : Shape.contains shape coord = true) :
    elementAt kernel (inputs.zip patterns) coord = pointwise kernel inputs coord := by
  have reads : ∀ entry ∈ inputs.zip patterns,
      KernelError.ofTensor (entry.1.get (grounded entry.2 coord)) =
        .ok (entry.1.element (Shape.shrink entry.1.shape coord)) := by
    intro entry listed
    have member : entry.1 ∈ inputs := (List.of_mem_zip listed).1
    obtain ⟨steps, stretched⟩ := Option.isSome_iff_exists.mp
      (aligned.stretches inputs patterns shape sameCount entry.1 member)
    have within := (Shape.stretch?_offset _ shape steps coord stretched inside).1
    rw [grounded_eq_shrink aligned listed inside,
      (valid entry.1 member).represents.get_eq _ within, Outcome.ofTensor_ok]
  have elements : (inputs.zip patterns).map
      (fun entry => entry.1.element (Shape.shrink entry.1.shape coord)) =
        inputs.map fun t => t.element (Shape.shrink t.shape coord) := by
    conv => rhs; rw [← List.map_fst_zip (Nat.le_of_eq sameCount)]
    rw [List.map_map]
    rfl
  rw [elementAt, Outcome.mapM_ok _ _ _ reads, Outcome.bind_ok, elements, pointwise]

/-- There is one common length for each axis. -/
@[simp] theorem length_commonShape (entries : List PatternedInput) (rank : Nat) :
    (commonShape entries rank).length = rank := by
  simp [commonShape]

/-- Axes are empty only where those of an input are. -/
theorem zero_notMem_commonShape {entries : List PatternedInput} {rank : Nat}
    (matched : Matched entries rank) (full : ∀ entry ∈ entries, 0 ∉ entry.1.shape) :
    0 ∉ commonShape entries rank := by
  intro empty
  obtain ⟨axis, listed, length⟩ := List.mem_map.mp empty
  cases found : entries.find? fun entry => !entry.flags axis with
  | none => simp [commonLength, found] at length
  | some entry =>
    have member := List.mem_of_find?_eq_some found
    have bound : axis < entry.1.shape.length :=
      Nat.lt_of_lt_of_eq (List.mem_range.mp listed) (matched.ranks entry member).1.symm
    simp only [commonLength, found, Option.map_some, Option.getD_some, PatternedInput.length,
      List.getD_eq_getElem?_getD, List.getElem?_eq_getElem bound] at length
    exact full entry member (length ▸ List.getElem_mem bound)

/-- Strides are words in the absence of empty axes, and then an output with a word of elements can
    be counted. -/
theorem batchFits_of_full {inputs : List Tensor} {patterns : List (List Bool)} {rank : Nat}
    (matched : Matched (inputs.zip patterns) rank) (valid : ∀ t ∈ inputs, t.Valid)
    (full : ∀ t ∈ inputs, 0 ∉ t.shape)
    (word : Shape.count (commonShape (inputs.zip patterns) rank) < Word.limit) :
    BatchFits inputs (commonShape (inputs.zip patterns) rank) := by
  refine ⟨fun t listed => Shape.stridesFit_of_full (full t listed) (valid t listed).2.2,
    Shape.countFits_of_full (zero_notMem_commonShape matched ?_) word⟩
  exact fun entry listed => full entry.1 (List.of_mem_zip listed).1

/-- The arrays that a batched evaluation returns: matched inputs with strides that are words, a
    value of the scalar kernel at every coordinate of their common shape, and these values, cast. -/
theorem eval_eq_ok_elements (core : OutputStore) (plan : BatchPlan) (elem : ElemType)
    (first : plan.outputTypes.head? = some elem) (inputs : List Tensor) (inhabited : inputs ≠ [])
    (valid : ∀ t ∈ inputs, t.Valid) (out : Tensor) :
    eval core plan inputs = .ok out ↔
      inputs.length = plan.inputPatterns.length ∧
      ∃ rank, Matched (inputs.zip plan.inputPatterns) rank ∧
      BatchFits inputs (commonShape (inputs.zip plan.inputPatterns) rank) ∧
      ∃ value : Coord → Scalar,
        (∀ coord, Shape.contains (commonShape (inputs.zip plan.inputPatterns) rank) coord = true →
          elementAt core.kernel (inputs.zip plan.inputPatterns) coord = .ok (value coord)) ∧
        out.Represents elem (commonShape (inputs.zip plan.inputPatterns) rank)
          fun coord => (value coord).cast elem := by
  by_cases sameCount : inputs.length = plan.inputPatterns.length
  · have somePattern : plan.inputPatterns ≠ [] := by
      rw [← List.length_pos_iff, ← sameCount, List.length_pos_iff]
      exact inhabited
    rw [eval_eq_ok core plan elem first inputs valid somePattern]
    refine and_congr_right fun _ => ?_
    constructor
    · rintro ⟨shape, aligned, fits, values, computed, rfl⟩
      obtain ⟨matched, common⟩ := (aligned_iff_matched _ shape).mp aligned
      refine ⟨shape.length, matched, ?_⟩
      rw [← common]
      refine ⟨fits, ?_⟩
      have each := (Outcome.exists_mapM_iff _ _).mp ⟨values, computed⟩
      have : Nonempty Scalar := ⟨.int 0⟩
      choose! value given using each
      obtain rfl := Except.ok.inj (computed.symm.trans (Outcome.mapM_ok _ _ _ given))
      refine ⟨value, ?_, Tensor.withScalars_represents elem shape value fits.2.count_lt⟩
      intro coord inside
      rw [elementAt_eq core.kernel valid sameCount aligned inside]
      exact given coord ((Shape.mem_coordinates shape coord).mpr inside)
    · rintro ⟨rank, matched, fits, value, given, represents⟩
      have aligned : Aligned (inputs.zip plan.inputPatterns)
          (commonShape (inputs.zip plan.inputPatterns) rank) := by
        rw [aligned_iff_matched, length_commonShape]
        exact ⟨matched, rfl⟩
      refine ⟨_, aligned, fits, _, Outcome.mapM_ok _ value _ ?_, ?_⟩
      · intro coord listed
        have inside := (Shape.mem_coordinates _ coord).mp listed
        rw [← elementAt_eq core.kernel valid sameCount aligned inside]
        exact given coord inside
      · exact (Tensor.withScalars_represents elem _ value fits.2.count_lt).unique _ represents
  · simp [eval, evalBy, sameCount]

/-- A batched evaluation is the scalar kernel at each coordinate, on either target, whatever the
    pool of threads and the buffers that may be taken over. It returns an array exactly when the
    inputs match the patterns, the strides of the inputs and the count of the output are words, and
    the scalar kernel gives a value everywhere. The array has the common shape and the type of the
    kernel, and its elements are these values, cast. A stride or a count that is no word ends the
    evaluation of matched inputs; one of them has an empty axis then, or the output has more
    elements than a word counts. -/
theorem batched_is_pointwise (pool : Loop) (collects : pool.Collects) (target : Target)
    (core : OutputStore) (plan : BatchPlan)
    (typed : plan.outputTypes.head? = some core.kernel.output) (inputs : List Tensor)
    (inhabited : inputs ≠ []) (valid : ∀ t ∈ inputs, t.Valid) :
    ((∃ out, evalBy (pool.onTarget target) core plan inputs = .ok out) ↔
      inputs.length = plan.inputPatterns.length ∧
      ∃ rank, Matched (inputs.zip plan.inputPatterns) rank ∧
        BatchFits inputs (commonShape (inputs.zip plan.inputPatterns) rank) ∧
        ∀ coord, Shape.contains (commonShape (inputs.zip plan.inputPatterns) rank) coord = true →
          ∃ value, elementAt core.kernel (inputs.zip plan.inputPatterns) coord = .ok value) ∧
    (∀ rank, inputs.length = plan.inputPatterns.length →
      Matched (inputs.zip plan.inputPatterns) rank →
      ¬ BatchFits inputs (commonShape (inputs.zip plan.inputPatterns) rank) →
        evalBy (pool.onTarget target) core plan inputs = .error (.inTensor .overflow) ∧
          ((∃ t ∈ inputs, 0 ∈ t.shape) ∨
            Word.limit ≤ Shape.count (commonShape (inputs.zip plan.inputPatterns) rank))) ∧
    ∀ out, evalBy (pool.onTarget target) core plan inputs = .ok out →
      (out.Valid ∧ out.elem = core.kernel.output ∧
        Matched (inputs.zip plan.inputPatterns) out.rank ∧
        out.shape = commonShape (inputs.zip plan.inputPatterns) out.rank ∧
        ∀ coord, Shape.contains out.shape coord = true →
          ∃ value, elementAt core.kernel (inputs.zip plan.inputPatterns) coord = .ok value ∧
            out.get coord = .ok (value.cast core.kernel.output)) ∧
      (∀ other : Loop, other.Collects → ∀ otherTarget reuse,
        evalBy (other.onTarget otherTarget) core { plan with reuse } inputs = .ok out) ∧
      ∀ name options,
        (Elementwise.vectorizedDefinition name core plan target).run options inputs =
          .ok (.tensor out) := by
  have returns := fun out =>
    (evalBy_eq_ok_iff (collects.onTarget target) core plan inputs out).trans
      (eval_eq_ok_elements core plan _ typed inputs inhabited valid out)
  refine ⟨?_, ?_, ?_⟩
  · simp only [returns]
    constructor
    · rintro ⟨out, sameCount, rank, matched, fits, value, given, -⟩
      exact ⟨sameCount, rank, matched, fits, fun coord inside => ⟨value coord, given coord inside⟩⟩
    · rintro ⟨sameCount, rank, matched, fits, each⟩
      have : Nonempty Scalar := ⟨.int 0⟩
      choose! value given using each
      exact ⟨_, sameCount, rank, matched, fits, value, given,
        Tensor.withScalars_represents _ _ value fits.2.count_lt⟩
  · intro rank sameCount matched tooLarge
    constructor
    · have aligned := (aligned_iff_matched _ _).mpr
        ⟨(length_commonShape (inputs.zip plan.inputPatterns) rank).symm ▸ matched,
          by rw [length_commonShape]⟩
      exact evalBy_overflow _ core plan _ typed inputs sameCount _
        ((shape_eq_ok inputs _ _ inhabited sameCount).mpr aligned) tooLarge
    · by_contra small
      obtain ⟨full, word⟩ := not_or.mp small
      exact tooLarge (batchFits_of_full matched valid
        (fun t listed empty => full ⟨t, listed, empty⟩) (Nat.lt_of_not_le word))
  · intro out returned
    refine ⟨?_, ?_, ?_⟩
    · obtain ⟨-, rank, matched, -, value, given, represents⟩ := (returns out).mp returned
      obtain rfl : out.rank = rank := by
        rw [Tensor.rank, represents.shape_eq, length_commonShape]
      refine ⟨represents.valid, represents.elem_eq, matched, represents.shape_eq, ?_⟩
      intro coord inside
      rw [represents.shape_eq] at inside
      exact ⟨value coord, given coord inside, represents.get_eq coord inside⟩
    · intro other otherCollects otherTarget reuse
      rw [evalBy_eq_ok_iff (otherCollects.onTarget otherTarget),
        eval_eq_ok_elements core { plan with reuse } _ typed inputs inhabited valid out]
      exact (returns out).mp returned
    · intro name options
      have evaluated :=
        (evalBy_eq_ok_iff (collects.onTarget target) core plan inputs out).mp returned
      simp [Elementwise.vectorizedDefinition, evaluated]

/-- Two workers: the second half of the positions is visited before the first. -/
def halves : Loop := fun count compute => do
  let second ← (List.range' (count / 2) (count - count / 2)).mapM compute
  let first ← (List.range (count / 2)).mapM compute
  pure (first ++ second)

/-- The loop that computes its second half first collects. -/
theorem halves_collects : Loop.Collects halves where
  gathers count compute value each := by
    have second : (List.range' (count / 2) (count - count / 2)).mapM compute =
        .ok ((List.range' (count / 2) (count - count / 2)).map value) := by
      refine Outcome.mapM_ok _ _ _ fun position listed => each position ?_
      have bounds := List.mem_range'_1.mp listed
      omega
    have first : (List.range (count / 2)).mapM compute =
        .ok ((List.range (count / 2)).map value) := by
      refine Outcome.mapM_ok _ _ _ fun position listed => each position ?_
      have below := List.mem_range.mp listed
      omega
    have all : List.range (count / 2) ++ List.range' (count / 2) (count - count / 2) =
        List.range count := by
      have joined := List.range'_append_1 (s := 0) (m := count / 2) (n := count - count / 2)
      rw [Nat.zero_add, Nat.add_sub_cancel' (Nat.div_le_self count 2)] at joined
      rw [List.range_eq_range', List.range_eq_range', joined]
    simp only [halves, second, first, Outcome.bind_ok, ← List.map_append, all]
    rfl
  reports count compute failing := by
    cases second : (List.range' (count / 2) (count - count / 2)).mapM compute with
    | error e =>
      obtain ⟨position, listed, failed⟩ := Outcome.exists_of_mapM_error _ _ _ second
      have bounds := List.mem_range'_1.mp listed
      exact ⟨position, by omega, e, failed, by simp [halves, second]⟩
    | ok late =>
      cases first : (List.range (count / 2)).mapM compute with
      | error e =>
        obtain ⟨position, listed, failed⟩ := Outcome.exists_of_mapM_error _ _ _ first
        have below := List.mem_range.mp listed
        exact ⟨position, by omega, e, failed, by simp [halves, second, first]⟩
      | ok early =>
        obtain ⟨position, bound, e, failed⟩ := failing
        have given : ∃ value, compute position = .ok value := by
          by_cases half : position < count / 2
          · exact (Outcome.exists_mapM_iff _ _).mp ⟨early, first⟩ position (List.mem_range.mpr half)
          · refine (Outcome.exists_mapM_iff _ _).mp ⟨late, second⟩ position ?_
            exact List.mem_range'_1.mpr (by omega)
        simp [failed] at given

/-- The difference of bytes, of a matrix and a row that stretches; the output may take over the
    buffer of the matrix. -/
def rowDifference : OutputStore := ⟨⟨.prim .sub, [.i8, .i8], .i8⟩, 2, 1⟩

/-- A matrix and a flagged row, the matrix lending its buffer. -/
def rowPlan : BatchPlan := ⟨[[false, false], [true, false]], [[false, false]], [.i8], [(0, 0)]⟩

/-- The matrix and the row; one of the differences leaves the byte. -/
def rowInputs : List Tensor :=
  [⟨.i8, [2, 3], .signed #[1, 2, 3, -4, -5, -128]⟩, ⟨.i8, [1, 3], .signed #[10, 20, 30]⟩]

/-- The row subtracted from each row of the matrix, in bytes. -/
def rowResult : Tensor := ⟨.i8, [2, 3], .signed #[-9, -18, -27, -14, -25, 98]⟩

/-- One input without flags. -/
def hollowPlan : BatchPlan := ⟨[[false, false, false]], [[false, false, false]], [.i64], []⟩

/-- Two workers that write over the matrix, and one that does not, leave the same bytes. The hollow
    array is not negated. -/
theorem batched_is_pointwise_rows :
    evalBy (halves.onTarget .parallel) rowDifference rowPlan rowInputs = .ok rowResult ∧
    evalBy (halves.onTarget .cpu) rowDifference { rowPlan with reuse := [] } rowInputs =
      .ok rowResult ∧
    (∃ value, elementAt rowDifference.kernel (rowInputs.zip rowPlan.inputPatterns) [1, 2] =
      .ok value ∧ rowResult.get [1, 2] = .ok (value.cast .i8)) ∧
    evalBy (halves.onTarget .cpu) ⟨⟨.prim .neg, [.i64], .i64⟩, 1, 1⟩ hollowPlan [.hollow] =
      .error (.inTensor .overflow) := by
  have run : evalBy (halves.onTarget .parallel) rowDifference rowPlan rowInputs =
      .ok rowResult := by decide +kernel
  obtain ⟨-, -, returned⟩ := batched_is_pointwise halves halves_collects .parallel rowDifference
    rowPlan rfl rowInputs (by simp [rowInputs]) (by decide)
  obtain ⟨⟨-, -, -, -, elements⟩, same, -⟩ := returned rowResult run
  obtain ⟨-, ends, -⟩ := batched_is_pointwise halves halves_collects .cpu
    ⟨⟨.prim .neg, [.i64], .i64⟩, 1, 1⟩ hollowPlan rfl [.hollow] (by simp) (by decide)
  have matched : Matched ([Tensor.hollow].zip hollowPlan.inputPatterns) 3 :=
    ⟨by decide, by decide, by decide⟩
  exact ⟨run, same halves halves_collects .cpu [], elements [1, 2] (by decide),
    (ends 3 rfl matched (by decide)).1⟩

end Vectorized

end LoopKernels
