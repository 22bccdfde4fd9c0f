import LoopKernels.Lowering.Compile
import LoopKernels.Proofs.Elementwise.Alignment
import LoopKernels.Proofs.Reduction.Lanes
import LoopKernels.Proofs.Tensor.Stretched

/-!
# The two elementwise kernels agree

Both kernels of an elementwise node run the scalar kernel once per coordinate of the
output, on the elements that the inputs have there when they are stretched. The
batched kernel then writes the results into a new array or over the buffer of an
input; the plain one builds an array and sums it over the flagged axes of the
output. A sum over an axis of length one changes nothing in a truth-value or
integer array, so the results are the same wherever both kernels give one.

The batched kernel reads every input through its strides; the plain one does so only where the
input has to be stretched, and forms the strides of the output when it sums. So there are arrays
without elements, with strides that are no words, on which one of the kernels ends and the other
one does not.
-/

namespace LoopKernels

/-- The output element at a coordinate: the scalar kernel on the elements of the inputs,
    each read where it is stretched. -/
def pointwise (kernel : ScalarKernel) (inputs : List Tensor) (coord : Coord) :
    Except KernelError Scalar :=
  kernel.eval (inputs.map fun t => t.element (Shape.shrink t.shape coord))

namespace Vectorized

/-- Reading through the strides of a stretched input finds its element. -/
theorem read_eq (t : Tensor) (valid : t.Valid) (shape : Shape) (steps : List Nat)
    (stretched : Shape.stretch? t.shape shape = some steps) (coord : Coord)
    (inside : Shape.contains shape coord = true) :
    read coord t steps = .ok (t.element (Shape.shrink t.shape coord)) := by
  simp [read, valid.represents.flat?_stretched shape steps stretched coord inside]

/-- Storing into one slot gives what the scalar kernel gives. -/
theorem store_one (core : OutputStore) (args : List Scalar) :
    (do
      let slots ← core.store args [.int 0]
      pure (slots.headD (.int 0))) = core.kernel.eval args := by
  simp only [OutputStore.store]
  cases core.kernel.eval args <;> rfl

/-- The strides of the inputs are words, and so are the products that count the output shape. -/
def BatchFits (inputs : List Tensor) (shape : Shape) : Prop :=
  (∀ t ∈ inputs, t.shape.StridesFit) ∧ shape.CountFits

instance (inputs : List Tensor) (shape : Shape) : Decidable (BatchFits inputs shape) :=
  inferInstanceAs (Decidable (_ ∧ _))

/-- Position by position, the batched evaluation computes the output elements in the order
    of the coordinates. -/
theorem values_eq (core : OutputStore) (shape : Shape) (inputs : List Tensor)
    (valid : ∀ t ∈ inputs, t.Valid)
    (stretches : ∀ t ∈ inputs, (Shape.stretch? t.shape shape).isSome = true)
    (fits : BatchFits inputs shape) :
    valuesBy .serial core shape inputs =
      (Shape.coordinates shape).mapM (pointwise core.kernel inputs) := by
  have strided : ∀ t ∈ inputs, KernelError.ofTensor (t.stretchStrides shape) =
      .ok ((Shape.stretch? t.shape shape).getD []) := by
    intro t listed
    obtain ⟨steps, stretched⟩ := Option.isSome_iff_exists.mp (stretches t listed)
    rw [Tensor.stretchStrides_eq_ok.mpr ⟨fits.1 t listed, stretched⟩, stretched]
    rfl
  have positions : ∀ position ∈ List.range (Shape.count shape),
      compute core shape (inputs.zip (inputs.map fun t => (Shape.stretch? t.shape shape).getD []))
        position = pointwise core.kernel inputs (Shape.unravel position shape) := by
    intro position listed
    have inside := (Shape.contains_unravel shape position (List.mem_range.mp listed)).1
    have args : (inputs.zip (inputs.map fun t => (Shape.stretch? t.shape shape).getD [])).mapM
        (fun entry => read (Shape.unravel position shape) entry.1 entry.2) =
        .ok (inputs.map fun t =>
          t.element (Shape.shrink t.shape (Shape.unravel position shape))) := by
      rw [← List.map_prod_left_eq_zip, List.mapM_map]
      refine Outcome.mapM_ok _ _ _ ?_
      intro t member
      obtain ⟨steps, stretched⟩ := Option.isSome_iff_exists.mp (stretches t member)
      simp only [Function.comp_apply, stretched, Option.getD_some]
      exact read_eq t (valid t member) shape steps stretched _ inside
    change ((inputs.zip _).mapM (fun entry => read _ entry.1 entry.2) >>= _) = _
    rw [args]
    exact store_one core _
  simp only [valuesBy, Loop.serial, Outcome.mapM_ok _ _ _ strided, Shape.elementCount_eq,
    if_pos fits.2, Outcome.ofTensor_ok, Outcome.bind_ok]
  rw [Outcome.mapM_congr _ _ _ positions, Shape.coordinates_eq, List.mapM_map]
  rfl

/-- A stride of an input or a count of the output that is no word ends the batched evaluation. -/
theorem valuesBy_overflow (loop : Loop) (core : OutputStore) (shape : Shape) (inputs : List Tensor)
    (stretches : ∀ t ∈ inputs, (Shape.stretch? t.shape shape).isSome = true)
    (tooLarge : ¬ BatchFits inputs shape) :
    valuesBy loop core shape inputs = .error (.inTensor .overflow) := by
  rw [valuesBy]
  cases strided : inputs.mapM fun t => KernelError.ofTensor (t.stretchStrides shape) with
  | error e =>
    obtain ⟨t, listed, failed⟩ := Outcome.exists_of_mapM_error _ _ _ strided
    cases refused : t.stretchStrides shape with
    | ok strides => simp [refused] at failed
    | error reason =>
      obtain ⟨-, unaligned⟩ | ⟨rfl, -⟩ := Tensor.stretchStrides_error refused
      · exact absurd (Shape.aligns_iff_isSome.mpr (stretches t listed)) unaligned
      · rw [refused] at failed
        obtain rfl := Except.error.inj failed
        rfl
  | ok strides =>
    have readable : ∀ t ∈ inputs, t.shape.StridesFit := by
      intro t listed
      obtain ⟨steps, found⟩ := (Outcome.exists_mapM_iff _ _).mp ⟨strides, strided⟩ t listed
      exact (Tensor.stretchStrides_eq_ok.mp ((Outcome.ofTensor_eq_ok _ _).mp found)).1
    rw [Outcome.bind_ok, Shape.elementCount_eq, if_neg fun counted => tooLarge ⟨readable, counted⟩]
    rfl

/-- A buffer that is taken over belongs to an input of the shape and type of the output. -/
theorem reused_eq_some (plan : BatchPlan) (inputs : List Tensor) (shape : Shape)
    (elem : ElemType) (number : Nat) (buffer : Tensor)
    (taken : reused plan inputs shape elem = some (number, buffer)) :
    buffer ∈ inputs ∧ buffer.shape = shape ∧ buffer.elem = elem := by
  simp only [reused, Option.bind_eq_bind, Option.bind_eq_some_iff] at taken
  obtain ⟨_, _, t, found, chosen⟩ := taken
  split at chosen
  next same =>
    obtain ⟨-, rfl⟩ : _ ∧ t = buffer := by simpa using chosen
    exact ⟨List.mem_of_getElem? found, same⟩
  next => simp at chosen

/-- Inputs that have a shape together stretch to it. -/
theorem stretches_of_shape (inputs : List Tensor) (patterns : List (List Bool)) (shape : Shape)
    (sameCount : inputs.length = patterns.length)
    (shaped : Vectorized.shape inputs patterns = .ok shape) :
    ∀ t ∈ inputs, (Shape.stretch? t.shape shape).isSome = true := by
  intro t listed
  have inhabited : inputs ≠ [] := List.ne_nil_of_mem listed
  have aligned := (shape_eq_ok inputs patterns shape inhabited sameCount).mp shaped
  exact aligned.stretches inputs patterns shape sameCount t listed

/-- Once there is a shape whose count is a word, and the strides of the inputs are words, the
    batched evaluation is the scalar kernel at each coordinate, and fails only where that does. The
    array is the same whether a buffer is taken over or not. -/
theorem eval_eq_map (core : OutputStore) (plan : BatchPlan) (elem : ElemType)
    (first : plan.outputTypes.head? = some elem) (inputs : List Tensor)
    (valid : ∀ t ∈ inputs, t.Valid) (sameCount : inputs.length = plan.inputPatterns.length)
    (shape : Shape) (shaped : Vectorized.shape inputs plan.inputPatterns = .ok shape)
    (fits : BatchFits inputs shape) :
    eval core plan inputs =
      ((Shape.coordinates shape).mapM (pointwise core.kernel inputs)).map
        (Tensor.withScalars elem shape) := by
  obtain ⟨others, types⟩ := List.head?_eq_some_iff.mp first
  have stretches := stretches_of_shape inputs plan.inputPatterns shape sameCount shaped
  simp only [eval, evalBy, types, sameCount, ne_eq, not_true_eq_false, if_false, shaped,
    Outcome.bind_ok, values_eq core shape inputs valid stretches fits]
  cases computed : (Shape.coordinates shape).mapM (pointwise core.kernel inputs) with
  | error e => rfl
  | ok values =>
    have size : values.length = Shape.count shape := by
      rw [Outcome.mapM_length _ _ _ computed, Shape.coordinates_length]
    cases taken : reused plan inputs shape elem with
    | none => simp [Tensor.ofScalars_ok elem shape values fits.2 size, Except.map]
    | some reuse =>
      obtain ⟨listed, rfl, rfl⟩ := reused_eq_some plan inputs shape elem reuse.1 reuse.2 taken
      simp [Tensor.overwrite_all reuse.2 (valid _ listed) values size, Except.map]

/-- Otherwise it ends, whatever loop visits the positions. -/
theorem evalBy_overflow (loop : Loop) (core : OutputStore) (plan : BatchPlan) (elem : ElemType)
    (first : plan.outputTypes.head? = some elem) (inputs : List Tensor)
    (sameCount : inputs.length = plan.inputPatterns.length) (shape : Shape)
    (shaped : Vectorized.shape inputs plan.inputPatterns = .ok shape)
    (tooLarge : ¬ BatchFits inputs shape) :
    evalBy loop core plan inputs = .error (.inTensor .overflow) := by
  obtain ⟨others, types⟩ := List.head?_eq_some_iff.mp first
  have stretches := stretches_of_shape inputs plan.inputPatterns shape sameCount shaped
  simp only [evalBy, types, sameCount, ne_eq, not_true_eq_false, if_false, shaped, Outcome.bind_ok,
    valuesBy_overflow loop core shape inputs stretches tooLarge]
  rfl

/-- Results of the batched evaluation: aligned inputs with strides that are words, the output
    elements, and an array that holds them. -/
theorem eval_eq_ok (core : OutputStore) (plan : BatchPlan) (elem : ElemType)
    (first : plan.outputTypes.head? = some elem) (inputs : List Tensor)
    (valid : ∀ t ∈ inputs, t.Valid) (inhabited : plan.inputPatterns ≠ []) (a : Tensor) :
    eval core plan inputs = .ok a ↔
      inputs.length = plan.inputPatterns.length ∧
      ∃ shape, Aligned (inputs.zip plan.inputPatterns) shape ∧ BatchFits inputs shape ∧
      ∃ values, (Shape.coordinates shape).mapM (pointwise core.kernel inputs) = .ok values ∧
        Tensor.withScalars elem shape values = a := by
  by_cases sameCount : inputs.length = plan.inputPatterns.length
  · have someInput := inputs_ne_nil sameCount inhabited
    simp only [sameCount, true_and, ← shape_eq_ok inputs _ _ someInput sameCount]
    cases shaped : Vectorized.shape inputs plan.inputPatterns with
    | error e =>
      obtain ⟨others, types⟩ := List.head?_eq_some_iff.mp first
      simp [eval, evalBy, types, sameCount, shaped]
    | ok shape =>
      simp only [Except.ok.injEq, exists_eq_left']
      by_cases fits : BatchFits inputs shape
      · rw [eval_eq_map core plan elem first inputs valid sameCount shape shaped fits]
        simp only [fits, true_and, Outcome.map_eq_ok]
      · rw [eval, evalBy_overflow .serial core plan elem first inputs sameCount shape shaped fits]
        simp [fits]
  · simp [eval, evalBy, sameCount]

end Vectorized

namespace Reference

/-- Stretched inputs are read where the inputs themselves are stretched. -/
theorem stretched_read (shape : Shape) (inputs : List Tensor) (valid : ∀ t ∈ inputs, t.Valid)
    (stretches : ∀ t ∈ inputs, (Shape.stretch? t.shape shape).isSome = true)
    (fits : ∀ t ∈ inputs, Tensor.StretchFits t.shape shape) :
    ∃ stretched, inputs.mapM (fun t => KernelError.ofTensor (t.broadcastTo shape)) = .ok stretched ∧
      ∀ coord, Shape.contains shape coord = true →
        stretched.mapM (fun t => KernelError.ofTensor (t.get coord)) =
          .ok (inputs.map fun t => t.element (Shape.shrink t.shape coord)) := by
  induction inputs with
  | nil => exact ⟨[], rfl, fun _ _ => rfl⟩
  | cons t inputs inductionHypothesis =>
    rw [List.forall_mem_cons] at valid stretches fits
    obtain ⟨rest, mapped, reads⟩ := inductionHypothesis valid.2 stretches.2 fits.2
    obtain ⟨u, stretched, represents⟩ := valid.1.represents.broadcastTo shape stretches.1 fits.1
    refine ⟨u :: rest, by simp [List.mapM_cons, stretched, mapped], ?_⟩
    intro coord inside
    simp [List.mapM_cons, represents.get_eq coord inside, reads coord inside]

/-- The inputs can be stretched and the output shape can be counted. -/
def PlainFits (inputs : List Tensor) (shape : Shape) : Prop :=
  (∀ t ∈ inputs, Tensor.StretchFits t.shape shape) ∧ shape.CountFits

/-- Inputs that have a common shape and pass the check: the output elements are computed, put into
    an array and summed. -/
theorem eval_eq_sums (kernel : ScalarKernel) (patterns : List (List Bool))
    (outputPattern : List Bool) (inputs : List Tensor) (valid : ∀ t ∈ inputs, t.Valid)
    (sameCount : inputs.length = patterns.length) (shape : Shape)
    (common : Shape.broadcast? (inputs.map Tensor.shape) = some shape)
    (checked : checkInputs shape 0 (inputs.zip patterns) = .ok ()) (fits : PlainFits inputs shape) :
    eval kernel patterns outputPattern inputs =
      (Shape.coordinates shape).mapM (pointwise kernel inputs) >>= fun values =>
        (flagged outputPattern shape.length).foldlM (sumAxis shape.length)
          (Tensor.withScalars kernel.output shape values) := by
  have stretches : ∀ t ∈ inputs, (Shape.stretch? t.shape shape).isSome = true :=
    fun t listed => Shape.stretch?_of_broadcast? _ shape t.shape common (List.mem_map_of_mem listed)
  obtain ⟨stretched, mapped, reads⟩ := stretched_read shape inputs valid stretches fits.1
  have values : (Shape.coordinates shape).mapM (compute kernel stretched) =
      (Shape.coordinates shape).mapM (pointwise kernel inputs) := by
    refine Outcome.mapM_congr _ _ _ ?_
    intro coord listed
    simp only [compute, reads coord ((Shape.mem_coordinates shape coord).mp listed)]
    rfl
  simp only [eval, sameCount, ne_eq, not_true_eq_false, if_false, common, checked, mapped, values,
    Shape.elementCount_eq, if_pos fits.2, Outcome.ofTensor_ok, Outcome.bind_ok]
  cases computed : (Shape.coordinates shape).mapM (pointwise kernel inputs) with
  | error e => rfl
  | ok values =>
    have size : values.length = Shape.count shape := by
      rw [Outcome.mapM_length _ _ _ computed, Shape.coordinates_length]
    rw [Outcome.bind_ok, Outcome.bind_ok, Tensor.ofScalars_ok _ shape values fits.2 size,
      Outcome.ofTensor_ok, Outcome.bind_ok]

/-- Results of the plain evaluation: inputs with a common shape that pass the check and can be
    stretched, the output elements, and the sums over the flagged axes of the output. -/
theorem eval_eq_ok (kernel : ScalarKernel) (patterns : List (List Bool))
    (outputPattern : List Bool) (inputs : List Tensor) (valid : ∀ t ∈ inputs, t.Valid)
    (a : Tensor) :
    eval kernel patterns outputPattern inputs = .ok a ↔
      inputs.length = patterns.length ∧
      ∃ shape, Shape.broadcast? (inputs.map Tensor.shape) = some shape ∧
      checkInputs shape 0 (inputs.zip patterns) = .ok () ∧ PlainFits inputs shape ∧
      ∃ values, (Shape.coordinates shape).mapM (pointwise kernel inputs) = .ok values ∧
        (flagged outputPattern shape.length).foldlM (sumAxis shape.length)
          (Tensor.withScalars kernel.output shape values) = .ok a := by
  constructor
  · intro evaluated
    have conditions : inputs.length = patterns.length ∧
        ∃ shape, Shape.broadcast? (inputs.map Tensor.shape) = some shape ∧
          checkInputs shape 0 (inputs.zip patterns) = .ok () ∧ PlainFits inputs shape := by
      simp only [eval] at evaluated
      obtain ⟨sameCount, evaluated⟩ := (Outcome.unless_eq_ok _ _ (fun _ => _) _).mp evaluated
      split at evaluated
      · cases evaluated
      next shape common =>
        obtain ⟨checked, evaluated⟩ := (Outcome.check_eq_ok _ _ _).mp evaluated
        obtain ⟨stretched, mapped, evaluated⟩ := (Outcome.bind_eq_ok _ _ _).mp evaluated
        obtain ⟨count, counted, -⟩ := (Outcome.bind_eq_ok _ _ _).mp evaluated
        refine ⟨not_not.mp sameCount, shape, common, checked, ?_, ?_⟩
        · intro t listed
          obtain ⟨u, found⟩ := (Outcome.exists_mapM_iff _ _).mp ⟨stretched, mapped⟩ t listed
          exact ((Tensor.broadcastTo_ok_iff (valid t listed) shape).mp
            ⟨u, (Outcome.ofTensor_eq_ok _ _).mp found⟩).2
        · exact (Shape.elementCount_eq_ok.mp ((Outcome.ofTensor_eq_ok _ _).mp counted)).1
    obtain ⟨sameCount, shape, common, checked, fits⟩ := conditions
    rw [eval_eq_sums kernel patterns outputPattern inputs valid sameCount shape common checked
      fits] at evaluated
    exact ⟨sameCount, shape, common, checked, fits, (Outcome.bind_eq_ok _ _ _).mp evaluated⟩
  · rintro ⟨sameCount, shape, common, checked, fits, computed⟩
    rw [eval_eq_sums kernel patterns outputPattern inputs valid sameCount shape common checked fits]
    exact (Outcome.bind_eq_ok _ _ _).mpr computed

/-- Adding an element of a truth-value or integer type to zero gives the element. -/
theorem fold_add_single (elem : ElemType) (s : Scalar) (n : Int) (holds : s.Holds elem n) :
    (Update.add.fold elem ((Scalar.int 0).seed elem) [s]).cast elem = s := by
  have zero : ((Scalar.int 0).seed elem).Holds elem (elem.wrap 0) :=
    Scalar.cast_holds (.int 0) elem 0 rfl holds.isFloat_eq
  have sum := Rule.add_holds elem _ s _ n zero holds
  rw [ElemType.wrap_zero, Int.zero_add, holds.wrap_eq] at sum
  show (Rule.add.apply elem _ s).cast elem = s
  rw [sum.unique holds, holds.cast_self]

/-- A sum over an axis of length one changes nothing in a truth-value or integer array. -/
theorem sumAxis_unit (t : Tensor) (elem : ElemType) (shape : Shape) (value : Coord → Scalar)
    (represents : t.Represents elem shape value)
    (elements : ∀ coord, ∃ n, (value coord).Holds elem n) (readable : shape.StridesFit)
    (counted : shape.CountFits) (axis : Nat) (bound : axis < shape.length)
    (unit : shape.getD axis 0 = 1) :
    sumAxis shape.length t axis = .ok t := by
  let sum : AxisReducer := ⟨"careduce_add_axis" ++ toString axis, "add", .add,
    (Scalar.int 0).seed elem, axis, shape.length, elem, true, false⟩
  have built : AxisReducer.build (.prim .add) (.int 0) axis shape.length t.elem true false =
      .ok sum := by
    rw [represents.elem_eq]
    exact AxisReducer.build_prim .add .add elem rfl (.int 0) shape.length axis axis
      (Axis.resolve_natCast _ _ bound) true false
  have sameShape : (shape.eraseIdx axis).insertIdx axis 1 = shape := by
    rw [← unit]
    exact Shape.insertIdx_eraseIdx_getD shape axis bound
  have fits : shape.ReduceFits axis := by
    have place : axis ≤ (shape.eraseIdx axis).length := by
      rw [List.length_eraseIdx_of_lt bound]
      omega
    refine ⟨readable, (Shape.countFits_insertIdx_one _ axis place).mp ?_⟩
    rwa [sameShape]
  obtain ⟨u, reduced, result⟩ := sum.reduce_kept represents true rfl bound fits rfl
  rw [show ((shape.eraseIdx sum.axis).insertIdx sum.axis 1) = shape from sameShape] at result
  have same : t = u := by
    refine (represents.congr _ fun coord inside => ?_).unique u result
    obtain ⟨n, holds⟩ := elements coord
    have first : coord.getD axis 0 = 0 := by
      have below := (Shape.contains_eraseIdx shape axis coord bound inside).1
      omega
    have back : (coord.eraseIdx axis).insertIdx axis 0 = coord := by
      rw [← first]
      refine Shape.insertIdx_eraseIdx_getD coord axis ?_
      rwa [Shape.length_of_contains shape coord inside]
    have lane : laneAt axis (shape.getD axis 0) value (coord.eraseIdx axis) = [value coord] := by
      rw [unit]
      simp [laneAt, back]
    show value coord = (Update.add.fold elem _ (laneAt axis (shape.getD axis 0) value _)).cast elem
    rw [lane, fold_add_single elem (value coord) n holds]
  simp [sumAxis, built, reduced, ← same, Value.toTensor]

/-- A sum ends where the strides of the array are no words. -/
theorem sumAxis_overflow (t : Tensor) (axis : Nat) (bound : axis < t.rank)
    (tooLarge : ¬ t.shape.StridesFit) :
    sumAxis t.rank t axis = .error (.inTensor .overflow) := by
  have built := AxisReducer.build_prim .add .add t.elem rfl (.int 0) t.rank axis axis
    (Axis.resolve_natCast _ _ bound) true false
  rw [sumAxis, built, Outcome.bind_ok, AxisReducer.reduce_overflow _ t true rfl bound
    fun fits => tooLarge fits.1]
  rfl

/-- The sums over the flagged axes need the strides of the array, unless there is no such axis. -/
def SumsFit (outputPattern : List Bool) (shape : Shape) : Prop :=
  flagged outputPattern shape.length = [] ∨ shape.StridesFit

instance (outputPattern : List Bool) (shape : Shape) : Decidable (SumsFit outputPattern shape) :=
  inferInstanceAs (Decidable (_ ∨ _))

/-- A sum whose lengths do not fit words ends the evaluation. -/
theorem sums_overflow (outputPattern : List Bool) (t : Tensor)
    (tooLarge : ¬ SumsFit outputPattern t.shape) :
    (flagged outputPattern t.rank).foldlM (sumAxis t.rank) t = .error (.inTensor .overflow) := by
  obtain ⟨someAxis, unreadable⟩ := not_or.mp tooLarge
  obtain ⟨axis, axes, listed⟩ := List.exists_cons_of_ne_nil someAxis
  have member : axis ∈ flagged outputPattern t.rank := by
    rw [show flagged outputPattern t.rank = _ from listed]
    exact List.mem_cons_self
  have bound : axis < t.rank := List.mem_range.mp (List.mem_filter.mp member).1
  rw [show flagged outputPattern t.rank = _ from listed, List.foldlM_cons,
    sumAxis_overflow t axis bound unreadable]
  rfl

/-- Steps that each leave the array as it is leave it so together. -/
theorem foldlM_fixed (step : Tensor → Nat → Except KernelError Tensor) (axes : List Nat)
    (t : Tensor) (fixed : ∀ axis ∈ axes, step t axis = .ok t) :
    axes.foldlM step t = .ok t := by
  induction axes with
  | nil => rfl
  | cons axis axes inductionHypothesis =>
    rw [List.forall_mem_cons] at fixed
    simp [List.foldlM_cons, fixed.1, inductionHypothesis fixed.2]

/-- The sums of the plain evaluation change nothing when every flagged axis of the output
    has length one in a truth-value or integer array. -/
theorem sums_fixed (outputPattern : List Bool) (elem : ElemType) (shape : Shape)
    (values : List Scalar) (size : values.length = Shape.count shape)
    (fits : SumsFit outputPattern shape) (counted : shape.CountFits)
    (harmless : ∀ axis, axis < shape.length → outputPattern.getD axis false = true →
      shape.getD axis 0 = 1 ∧ elem.isFloat = false) :
    (flagged outputPattern shape.length).foldlM (sumAxis shape.length)
      (Tensor.withScalars elem shape values) = .ok (Tensor.withScalars elem shape values) := by
  have : Inhabited Scalar := ⟨.int 0⟩
  obtain ⟨value, rfl⟩ := Shape.exists_map_coordinates shape values size
  have represents := Tensor.withScalars_represents elem shape value counted.count_lt
  refine foldlM_fixed _ _ _ ?_
  intro axis member
  have readable : shape.StridesFit := fits.resolve_left (List.ne_nil_of_mem member)
  obtain ⟨inRange, flag⟩ := List.mem_filter.mp member
  have bound : axis < shape.length := List.mem_range.mp inRange
  obtain ⟨unit, exact⟩ := harmless axis bound flag
  exact sumAxis_unit _ elem shape _ represents
    (fun coord => Scalar.exists_cast_holds _ elem exact) readable counted axis bound unit

/-- Over such axes the sums give the array itself, or cannot be formed. -/
theorem sums_eq (outputPattern : List Bool) (elem : ElemType) (shape : Shape)
    (values : List Scalar) (size : values.length = Shape.count shape) (counted : shape.CountFits)
    (harmless : ∀ axis, axis < shape.length → outputPattern.getD axis false = true →
      shape.getD axis 0 = 1 ∧ elem.isFloat = false) :
    (flagged outputPattern shape.length).foldlM (sumAxis shape.length)
        (Tensor.withScalars elem shape values) =
      if SumsFit outputPattern shape then .ok (Tensor.withScalars elem shape values)
      else .error (.inTensor .overflow) := by
  by_cases fits : SumsFit outputPattern shape
  · rw [if_pos fits, sums_fixed outputPattern elem shape values size fits counted harmless]
  · rw [if_neg fits]
    exact sums_overflow outputPattern (Tensor.withScalars elem shape values) fits

end Reference

namespace Elementwise

/-- A scalar kernel has the output type that was asked for. -/
theorem scalar_output (operator : Operator) (inputs : List ElemType) (output : ElemType)
    (kernel : ScalarKernel) (built : ScalarKernel.build operator inputs output = .ok kernel) :
    kernel.output = output := by
  unfold ScalarKernel.build at built
  obtain ⟨_, _, rest⟩ := (Outcome.bind_eq_ok _ _ _).mp built
  split at rest
  · simp at rest
  · obtain rfl : (⟨operator, inputs, output⟩ : ScalarKernel) = kernel := by simpa using rest
    rfl

/-- A store runs the kernel for which it was built. -/
theorem store_kernel (kernel : ScalarKernel) (inputs outputs : Nat) (core : OutputStore)
    (built : OutputStore.build kernel inputs outputs = .ok core) : core.kernel = kernel := by
  unfold OutputStore.build at built
  split at built
  · simp at built
  · split at built
    · simp at built
    · obtain rfl : (⟨kernel, inputs, outputs⟩ : OutputStore) = core := by simpa using built
      rfl

/-- What the kernels of a node run: the batched and the plain evaluation of one scalar
    kernel, with the patterns of the node. -/
theorem build_eq_ok (operator : Operator) (reuse : ReuseMap) (node : Node) (config : Config)
    (pair : KernelPair) (built : build operator reuse node config = .ok pair) :
    ∃ output kernel core plan, node.outputs = [output] ∧ kernel.output = output.elem ∧
      core.kernel = kernel ∧ plan.outputTypes.head? = some output.elem ∧
      plan.inputPatterns = node.inputs.map TensorType.broadcastable ∧
      (∀ inputs, pair.vectorized.call inputs =
        (Vectorized.eval core plan inputs).map Value.tensor) ∧
      ∀ inputs, pair.reference.call inputs =
        (Reference.eval kernel plan.inputPatterns output.broadcastable inputs).map
          Value.tensor := by
  unfold build at built
  split at built
  next output single =>
    simp only [Outcome.bind_eq_ok] at built
    obtain ⟨_, _, _, _, kernel, scalar, core, stored, vectorized, first, reference, second, same⟩ :=
      built
    obtain rfl := Except.ok.inj first
    obtain rfl := Except.ok.inj second
    obtain rfl := Except.ok.inj same
    refine ⟨output, kernel, core, ⟨node.inputs.map TensorType.broadcastable,
      [output.broadcastable], [output.elem], reuse.pairs⟩, single, scalar_output _ _ _ _ scalar,
      store_kernel _ _ _ _ stored, rfl, rfl, fun inputs => ?_, fun inputs => ?_⟩
    · exact bind_pure_comp _ _
    · exact bind_pure_comp _ _
  next => simp at built

/-- The sums of the plain kernel of a node can be formed in the common shape of the inputs. -/
def SumsFit (node : Node) (inputs : List Tensor) : Prop :=
  ∀ output ∈ node.outputs, ∀ shape, Shape.broadcast? (inputs.map Tensor.shape) = some shape →
    Reference.SumsFit output.broadcastable shape

/-- For the only output of a node and the common shape of the inputs. -/
theorem sumsFit_iff {node : Node} {inputs : List Tensor} {output : TensorType} {shape : Shape}
    (single : node.outputs = [output])
    (common : Shape.broadcast? (inputs.map Tensor.shape) = some shape) :
    SumsFit node inputs ↔ Reference.SumsFit output.broadcastable shape := by
  simp [SumsFit, single, common]

/-- Inputs of one rank that have a common shape and pass the check are aligned when their flagged
    axes have length one. -/
theorem aligned_of_common {inputs : List Tensor} {patterns : List (List Bool)} {shape : Shape}
    (sameCount : inputs.length = patterns.length) (somePattern : patterns ≠ [])
    (common : Shape.broadcast? (inputs.map Tensor.shape) = some shape)
    (checked : Reference.checkInputs shape 0 (inputs.zip patterns) = .ok ())
    (sameRank : ∀ t ∈ inputs, ∀ u ∈ inputs, t.rank = u.rank)
    (flagged : ∀ entry ∈ inputs.zip patterns, ∀ axis, axis < entry.1.rank →
      entry.2.getD axis false = true → entry.1.shape.getD axis 0 = 1) :
    Aligned (inputs.zip patterns) shape := by
  have ranks : ∀ t ∈ inputs, t.rank = shape.length := by
    intro t listed
    have someShape : inputs.map Tensor.shape ≠ [] :=
      List.ne_nil_of_mem (List.mem_map_of_mem listed)
    exact ((Shape.broadcast?_sameRank _ t.rank shape someShape (List.forall_mem_map.mpr
      fun u member => sameRank u member t listed)).mp common).1.symm
  refine (aligned_iff _ shape (zip_ne_nil inputs patterns sameCount somePattern)).mpr
    ⟨?_, ?_, checked, ?_⟩
  · intro entry listed
    exact ranks entry.1 (List.of_mem_zip listed).1
  · rwa [map_shape_zip inputs patterns sameCount]
  · intro entry listed axis bound
    rw [← ranks entry.1 (List.of_mem_zip listed).1] at bound
    exact flagged entry listed axis bound

/-- Where the strides of an input are no words, the common shape has no elements. -/
theorem zero_mem_common {inputs : List Tensor} {shape : Shape} (valid : ∀ t ∈ inputs, t.Valid)
    (common : Shape.broadcast? (inputs.map Tensor.shape) = some shape)
    (tooLarge : ¬ ∀ t ∈ inputs, t.shape.StridesFit) : 0 ∈ shape := by
  obtain ⟨t, listed, unreadable⟩ : ∃ t ∈ inputs, ¬ t.shape.StridesFit := by simpa using tooLarge
  have empty : 0 ∈ t.shape :=
    by_contra fun full => unreadable (Shape.stridesFit_of_full full (valid t listed).2.2)
  obtain ⟨strides, stretched⟩ := Option.isSome_iff_exists.mp
    (Shape.stretch?_of_broadcast? _ shape t.shape common (List.mem_map_of_mem listed))
  exact Shape.zero_mem_of_stretch? stretched empty

/-- The kernels of an elementwise node agree, apart from strides that are no words. Suppose that
    every axis flagged in the pattern of the output lies beyond the common shape of the inputs, or
    has length one there in a truth-value or integer output. Then each result of the batched kernel
    is the result of the plain one if the sums of that can be formed; and each result of the plain
    kernel is the result of the batched one when all inputs have one rank and length one on their
    flagged axes, and strides that are words. What one kernel gives and the other does not has no
    elements. -/
theorem vectorized_agrees_with_reference (operator : Operator) (reuse : ReuseMap) (node : Node)
    (config : Config) (pair : KernelPair) (built : build operator reuse node config = .ok pair)
    (inhabited : node.inputs ≠ []) (inputs : List Tensor) (valid : ∀ t ∈ inputs, t.Valid)
    (harmless : ∀ output ∈ node.outputs, ∀ shape,
      Shape.broadcast? (inputs.map Tensor.shape) = some shape →
      ∀ axis, axis < shape.length → output.broadcastable.getD axis false = true →
        shape.getD axis 0 = 1 ∧ output.elem.isFloat = false) :
    (∀ a, pair.vectorized.call inputs = .ok a →
      (SumsFit node inputs → pair.reference.call inputs = .ok a) ∧
      (¬ SumsFit node inputs →
        0 ∈ a.shape ∧ pair.reference.call inputs = .error (.inTensor .overflow))) ∧
    ∀ a, pair.reference.call inputs = .ok a →
      (∀ t ∈ inputs, ∀ u ∈ inputs, t.rank = u.rank) →
      (∀ entry ∈ inputs.zip (node.inputs.map TensorType.broadcastable),
        ∀ axis, axis < entry.1.rank → entry.2.getD axis false = true →
          entry.1.shape.getD axis 0 = 1) →
      ((∀ t ∈ inputs, t.shape.StridesFit) → pair.vectorized.call inputs = .ok a) ∧
      ((¬ ∀ t ∈ inputs, t.shape.StridesFit) →
        0 ∈ a.shape ∧ pair.vectorized.call inputs = .error (.inTensor .overflow)) := by
  obtain ⟨output, kernel, core, plan, single, target, shared, types, patterns, batched, plain⟩ :=
    build_eq_ok operator reuse node config pair built
  have somePattern : plan.inputPatterns ≠ [] := by simpa [patterns] using inhabited
  -- On the common shape the plain kernel returns the evaluated elements, or its sums end it.
  have sums : ∀ shape values, Shape.broadcast? (inputs.map Tensor.shape) = some shape →
      shape.CountFits → (Shape.coordinates shape).mapM (pointwise kernel inputs) = .ok values →
      (Reference.flagged output.broadcastable shape.length).foldlM
          (Reference.sumAxis shape.length) (Tensor.withScalars output.elem shape values) =
        if Reference.SumsFit output.broadcastable shape then
          .ok (Tensor.withScalars output.elem shape values)
        else .error (.inTensor .overflow) := by
    intro shape values common counted computed
    have size : values.length = Shape.count shape := by
      rw [Outcome.mapM_length _ _ _ computed, Shape.coordinates_length]
    exact Reference.sums_eq output.broadcastable output.elem shape values size counted
      (harmless output (by simp [single]) shape common)
  rw [batched, plain, ← patterns]
  simp only [Outcome.map_eq_ok]
  constructor
  · rintro _ ⟨a, evaluated, rfl⟩
    rw [Vectorized.eval_eq_ok core plan output.elem types inputs valid somePattern, shared]
      at evaluated
    obtain ⟨sameCount, shape, aligned, fits, values, computed, rfl⟩ := evaluated
    have someEntry := zip_ne_nil inputs plan.inputPatterns sameCount somePattern
    obtain ⟨-, common, checked, -⟩ := (aligned_iff _ shape someEntry).mp aligned
    rw [map_shape_zip inputs plan.inputPatterns sameCount] at common
    have plainFits : Reference.PlainFits inputs shape :=
      ⟨fun t listed => .inr ⟨fits.1 t listed, fits.2.count_lt⟩, fits.2⟩
    rw [Reference.eval_eq_sums kernel _ _ inputs valid sameCount shape common checked plainFits,
      computed, Outcome.bind_ok, target, sums shape values common fits.2 computed,
      sumsFit_iff single common]
    constructor
    · intro summable
      rw [if_pos summable]
      exact ⟨_, rfl, rfl⟩
    · intro tooLarge
      rw [if_neg tooLarge]
      refine ⟨by_contra fun full => tooLarge ?_, rfl⟩
      exact .inr (Shape.stridesFit_of_full full fits.2.count_lt)
  · rintro _ ⟨a, evaluated, rfl⟩ sameRank flagged
    rw [Reference.eval_eq_ok kernel _ _ inputs valid, target] at evaluated
    obtain ⟨sameCount, shape, common, checked, fits, values, computed, summed⟩ := evaluated
    have shaped := (Vectorized.shape_eq_ok inputs _ shape
      (inputs_ne_nil sameCount somePattern) sameCount).mpr
      (aligned_of_common sameCount somePattern common checked sameRank flagged)
    rw [sums shape values common fits.2 computed] at summed
    split at summed
    case isFalse => cases summed
    obtain rfl := Except.ok.inj summed
    constructor
    · intro readable
      rw [Vectorized.eval_eq_map core plan output.elem types inputs valid sameCount shape shaped
        ⟨readable, fits.2⟩, shared, computed]
      exact ⟨_, rfl, rfl⟩
    · intro tooLarge
      rw [Vectorized.eval, Vectorized.evalBy_overflow .serial core plan output.elem types inputs
        sameCount shape shaped fun batchFits => tooLarge batchFits.1]
      exact ⟨zero_mem_common valid common tooLarge, rfl⟩

/-- A sum of two rows in the buffer of the second, the first axis being flagged everywhere. -/
def rowSum : Node :=
  ⟨.elementwise (.prim .add) (.ofPairs [(0, 1)]),
    [⟨.i8, [none, some 2], [true, false]⟩, ⟨.i8, [some 1, none], [true, false]⟩],
    [⟨.i8, [some 1, none], [true, false]⟩]⟩

/-- A sum of matrices of integers. -/
def hollowSum : Node :=
  ⟨.elementwise (.prim .add) .empty, [.dynamic .i64 3, .dynamic .i64 3], [.dynamic .i64 3]⟩

/-- Both kernels of the sum of two rows give the wrapped sums. The plain kernel adds the hollow
    array to itself, which the batched one does not. -/
theorem vectorized_agrees_with_reference_row :
    (∃ pair, build (.prim .add) (.ofPairs [(0, 1)]) rowSum {} = .ok pair ∧
      pair.vectorized.call [⟨.i8, [1, 2], .signed #[100, 5]⟩, ⟨.i8, [1, 2], .signed #[100, -7]⟩] =
        .ok (.tensor ⟨.i8, [1, 2], .signed #[-56, -2]⟩) ∧
      pair.reference.call [⟨.i8, [1, 2], .signed #[100, 5]⟩, ⟨.i8, [1, 2], .signed #[100, -7]⟩] =
        .ok (.tensor ⟨.i8, [1, 2], .signed #[-56, -2]⟩)) ∧
    ∃ pair, build (.prim .add) .empty hollowSum {} = .ok pair ∧
      pair.reference.call [.hollow, .hollow] = .ok (.tensor .hollow) ∧
      pair.vectorized.call [.hollow, .hollow] = .error (.inTensor .overflow) := by
  constructor
  · refine ⟨_, rfl, rfl, ?_⟩
    have agrees := (vectorized_agrees_with_reference (.prim .add) (.ofPairs [(0, 1)]) rowSum {} _
      rfl (by simp [rowSum]) [⟨.i8, [1, 2], .signed #[100, 5]⟩, ⟨.i8, [1, 2], .signed #[100, -7]⟩]
      (by decide) ?_).1 _ rfl
    · refine agrees.1 fun output listed shape common => .inr ?_
      obtain rfl : [1, 2] = shape := Option.some.inj common
      decide
    · intro output listed shape common axis bound flag
      obtain rfl := List.mem_singleton.mp listed
      obtain rfl : [1, 2] = shape := Option.some.inj common
      match axis, bound, flag with
      | 0, _, _ => exact ⟨rfl, rfl⟩
      | 1, _, flag => simp at flag
  · obtain ⟨pair, built⟩ : ∃ pair, build (.prim .add) .empty hollowSum {} = .ok pair := ⟨_, rfl⟩
    have plain : pair.reference.call [.hollow, .hollow] = .ok (.tensor .hollow) := by
      obtain rfl := Except.ok.inj built
      decide +kernel
    refine ⟨pair, built, plain, ?_⟩
    have unflagged : ∀ axis, (TensorType.dynamic .i64 3).broadcastable.getD axis false = false
      | 0 | 1 | 2 | _ + 3 => rfl
    have agrees := (vectorized_agrees_with_reference (.prim .add) .empty hollowSum {} pair built
      (by simp [hollowSum]) [.hollow, .hollow] (by decide) ?_).2 _ plain (by decide) ?_
    · exact (agrees.2 (by decide)).2
    · intro output listed shape common axis bound flag
      obtain rfl := List.mem_singleton.mp listed
      exact absurd flag (by rw [unflagged]; decide)
    · intro entry listed axis bound flag
      have pattern : entry.2 = (TensorType.dynamic .i64 3).broadcastable := by
        simpa [hollowSum] using (List.of_mem_zip listed).2
      exact absurd flag (by rw [pattern, unflagged]; decide)

end Elementwise

end LoopKernels
