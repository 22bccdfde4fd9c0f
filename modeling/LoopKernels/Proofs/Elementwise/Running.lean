import LoopKernels.Proofs.Elementwise.Agreement
import LoopKernels.Proofs.Operator.Running

/-!
# When an elementwise kernel runs

A node is built only if its operator takes operands of the declared types. For a
primitive operator that is all there is to evaluation, and the batched kernel then runs on
all arrays of the declared types that have a shape together, if their strides and the count of
that shape are words. The steps of a composite are
not looked at when the node is built: a kernel may be built whose composite names an input
that does not exist, gives a bitwise step a constant, or has no inputs to begin with. Such
a kernel fails at its first element, and runs only where the output has none.
-/

namespace LoopKernels

/-- The elements of an array are held as its element type asks for. -/
theorem Tensor.Valid.isFloat_element {t : Tensor} (valid : t.Valid) (coord : Coord)
    (inside : Shape.contains t.shape coord = true) :
    (t.element coord).isFloat = t.elem.isFloat := by
  have stored : t.element coord ∈ t.cells.toList := by
    rw [valid.represents.toList_eq]
    exact List.mem_map_of_mem ((Shape.mem_coordinates t.shape coord).mpr inside)
  have families := (t.cells.family_of_mem _ stored).trans valid.1
  rw [ElemType.isFloat, ← families]
  cases t.element coord <;> rfl

/-- At a coordinate of the output, the scalar kernel gives a value exactly when its operator runs
    on operands of the types of the inputs. -/
theorem exists_pointwise_iff (kernel : ScalarKernel) (inputs : List Tensor)
    (valid : ∀ t ∈ inputs, t.Valid) (shape : Shape)
    (stretches : ∀ t ∈ inputs, (Shape.stretch? t.shape shape).isSome = true) (coord : Coord)
    (inside : Shape.contains shape coord = true) :
    (∃ value, pointwise kernel inputs coord = .ok value) ↔
      kernel.operator.runs (inputs.map fun t => t.elem.isFloat) kernel.output = true := by
  have kinds : (inputs.map fun t => t.element (Shape.shrink t.shape coord)).map Scalar.isFloat =
      inputs.map fun t => t.elem.isFloat := by
    rw [List.map_map]
    apply List.map_congr_left
    intro t listed
    obtain ⟨steps, stretched⟩ := Option.isSome_iff_exists.mp (stretches t listed)
    exact (valid t listed).isFloat_element _
      (Shape.stretch?_offset t.shape shape steps coord stretched inside).1
  simp only [pointwise, ScalarKernel.eval, Outcome.ofOperator_eq_ok]
  rw [(kernel.operator.decided kernel.output _).1, kinds]

namespace Elementwise

/-- What a node passes when it is built: its operator takes operands of the declared number, and
    no floats if it is bitwise. -/
theorem scalarKernel_eq_ok (operator : Operator) (inputs : List ElemType) (output : ElemType)
    (kernel : ScalarKernel) (built : ScalarKernel.build operator inputs output = .ok kernel) :
    operator.arity.accepts inputs.length = true ∧
      (operator.isBitwise && (output.isFloat || inputs.any ElemType.isFloat)) = false ∧
      kernel = ⟨operator, inputs, output⟩ := by
  simp only [ScalarKernel.build, Operator.checkArity] at built
  cases accepted : operator.arity.accepts inputs.length with
  | false => simp [accepted, KernelError.ofOperator] at built
  | true =>
    cases bitwise : operator.isBitwise && (output.isFloat || inputs.any ElemType.isFloat) with
    | true => simp [accepted, bitwise, KernelError.ofOperator] at built
    | false =>
      refine ⟨rfl, rfl, ?_⟩
      simpa [accepted, bitwise, KernelError.ofOperator, eq_comm] using built

/-- The batched kernel of a node: its operator on its types, with its patterns. -/
theorem build_vectorized (operator : Operator) (reuse : ReuseMap) (node : Node) (config : Config)
    (pair : KernelPair) (built : build operator reuse node config = .ok pair) :
    ∃ output, node.outputs = [output] ∧
      operator.arity.accepts node.inputs.length = true ∧
      (operator.isBitwise &&
        (output.elem.isFloat || node.inputs.any fun t => t.elem.isFloat)) = false ∧
      pair.vectorized = ⟨vectorizedDefinition ("elemwise_" ++ operator.name)
        ⟨⟨operator, node.inputs.map TensorType.elem, output.elem⟩, node.inputs.length, 1⟩
        ⟨node.inputs.map TensorType.broadcastable, [output.broadcastable], [output.elem],
          reuse.pairs⟩ config.target, none, Options.ofConfig config⟩ := by
  unfold build at built
  split at built
  next output single =>
    simp only [Outcome.bind_eq_ok] at built
    obtain ⟨_, _, _, _, kernel, scalar, core, stored, vectorized, first, _, _, same⟩ := built
    obtain ⟨accepted, whole, rfl⟩ := scalarKernel_eq_ok _ _ _ _ scalar
    rw [List.length_map] at accepted
    rw [List.any_map] at whole
    obtain rfl : (⟨⟨operator, node.inputs.map TensorType.elem, output.elem⟩,
        node.inputs.length, 1⟩ : OutputStore) = core := by
      simpa [OutputStore.build, ScalarKernel.inputCount] using stored
    obtain rfl := Except.ok.inj first
    obtain rfl := Except.ok.inj same
    exact ⟨output, single, accepted, whole, rfl⟩
  next => simp at built

/-- All elements can be computed when there are none, or when the operator runs on inputs of these
    kinds. -/
theorem exists_elements_iff (kernel : ScalarKernel) (inputs : List Tensor)
    (valid : ∀ t ∈ inputs, t.Valid) (shape : Shape)
    (stretches : ∀ t ∈ inputs, (Shape.stretch? t.shape shape).isSome = true) :
    (∃ values, (Shape.coordinates shape).mapM (pointwise kernel inputs) = .ok values) ↔
      Shape.count shape = 0 ∨
        kernel.operator.runs (inputs.map fun t => t.elem.isFloat) kernel.output = true := by
  have atCoord : ∀ coord ∈ Shape.coordinates shape,
      ((∃ value, pointwise kernel inputs coord = .ok value) ↔
        kernel.operator.runs (inputs.map fun t => t.elem.isFloat) kernel.output = true) := by
    intro coord listed
    exact exists_pointwise_iff kernel inputs valid shape stretches coord
      ((Shape.mem_coordinates shape coord).mp listed)
  have empty : Shape.count shape = 0 ↔ Shape.coordinates shape = [] := by
    rw [← Shape.coordinates_length, List.length_eq_zero_iff]
  rw [Outcome.exists_mapM_iff, forall₂_congr atCoord, empty]
  cases Shape.coordinates shape with
  | nil => simp
  | cons coord coords => simp +contextual

/-- Elements fail for no other reason than their operator. -/
theorem elements_error {kernel : ScalarKernel} {inputs : List Tensor} {coords : List Coord}
    {e : KernelError} (failed : coords.mapM (pointwise kernel inputs) = .error e) :
    ∃ reason, e = .inOperator reason := by
  obtain ⟨coord, -, here⟩ := Outcome.exists_of_mapM_error _ _ _ failed
  change KernelError.ofOperator (kernel.operator.eval _ _) = _ at here
  cases evaluated : kernel.operator.eval
      (inputs.map fun t => t.element (Shape.shrink t.shape coord)) kernel.output with
  | ok value => simp [evaluated, KernelError.ofOperator] at here
  | error reason => exact ⟨reason, by simpa [evaluated, KernelError.ofOperator, eq_comm] using here⟩

/-- A built kernel on arrays of the declared types that have a shape together. It returns a result
    exactly when the strides of the arrays and the count of the shape are words, and the output has
    no elements or the operator runs on operands of the declared types. A primitive operator always
    does. All that can fail besides the words is the evaluation of the operator. -/
theorem vectorized_runs_iff (operator : Operator) (reuse : ReuseMap) (node : Node)
    (config : Config) (pair : KernelPair) (built : build operator reuse node config = .ok pair)
    (inputs : List Tensor) (valid : ∀ t ∈ inputs, t.Valid)
    (declared : inputs.map Tensor.elem = node.inputs.map TensorType.elem) (shape : Shape)
    (shaped : Vectorized.shape inputs (node.inputs.map TensorType.broadcastable) = .ok shape) :
    ((∃ value, pair.vectorized.call inputs = .ok value) ↔
      Vectorized.BatchFits inputs shape ∧
        (Shape.count shape = 0 ∨ ∀ output ∈ node.outputs,
          operator.runs (node.inputs.map fun t => t.elem.isFloat) output.elem = true)) ∧
    (∀ p, operator = .prim p → Vectorized.BatchFits inputs shape →
      ∃ value, pair.vectorized.call inputs = .ok value) ∧
    ∀ error, pair.vectorized.call inputs = .error error →
      error = .inTensor .overflow ∧ ¬ Vectorized.BatchFits inputs shape ∨
        ∃ reason, error = .inOperator reason := by
  obtain ⟨output, single, accepted, whole, vectorized⟩ :=
    build_vectorized operator reuse node config pair built
  have sameCount : inputs.length = (node.inputs.map TensorType.broadcastable).length := by
    simpa using congrArg List.length declared
  have kinds : (inputs.map fun t => t.elem.isFloat) = node.inputs.map fun t => t.elem.isFloat := by
    simpa [Function.comp_def] using congrArg (List.map ElemType.isFloat) declared
  let kernel : ScalarKernel := ⟨operator, node.inputs.map TensorType.elem, output.elem⟩
  let elements := (Shape.coordinates shape).mapM (pointwise kernel inputs)
  by_cases fits : Vectorized.BatchFits inputs shape
  case neg =>
    have ends : pair.vectorized.call inputs = .error (.inTensor .overflow) := by
      rw [vectorized]
      show (Vectorized.evalBy _ _ _ inputs >>= fun result => pure (Value.tensor result)) = _
      rw [Vectorized.evalBy_overflow _ _ _ output.elem rfl inputs sameCount shape shaped fits]
      rfl
    refine ⟨by simp [ends, fits], fun _ _ words => absurd words fits, ?_⟩
    intro error failed
    exact .inl ⟨(Except.error.inj (ends.symm.trans failed)).symm, fits⟩
  have called : pair.vectorized.call inputs =
      elements.map fun values => .tensor (Tensor.withScalars output.elem shape values) := by
    rw [vectorized]
    show (Vectorized.eval _ _ inputs >>= fun result => pure (Value.tensor result)) = _
    rw [Vectorized.eval_eq_map _ _ output.elem rfl inputs valid sameCount shape shaped fits]
    show (Except.map _ elements >>= _) = _
    cases elements <;> rfl
  have runs : (∃ value, pair.vectorized.call inputs = .ok value) ↔
      Shape.count shape = 0 ∨
        operator.runs (node.inputs.map fun t => t.elem.isFloat) output.elem = true := by
    have computed := exists_elements_iff kernel inputs valid shape
      (Vectorized.stretches_of_shape inputs _ shape sameCount shaped)
    rw [kinds] at computed
    rw [called, ← computed]
    show _ ↔ ∃ values, elements = .ok values
    cases elements <;> simp [Except.map]
  refine ⟨by simpa [single, fits] using runs, ?_, ?_⟩
  · rintro p rfl -
    apply runs.mpr
    right
    apply Operator.runs_prim p _ _ (by simpa [Operator.arity] using accepted)
    simpa [Operator.isBitwise, List.any_map, Function.comp_def] using whole
  · intro error failed
    rw [called] at failed
    cases computed : elements with
    | ok values => simp [computed, Except.map] at failed
    | error other =>
      obtain rfl : other = error := by simpa [computed, Except.map] using failed
      exact .inr (elements_error computed)

/-- The constant two, as an operator without operands. -/
def constantTwo : Operator := .composite 0 [] (.const 2)

/-- The last two bits of an integer, taken with a constant. -/
def lastBits : Operator := .composite 1 [(.prim .and, [.input 0, .const 3])] (.step 0)

/-- A node of the constant two. -/
def constantTwoNode : Node := ⟨.elementwise constantTwo .empty, [], [.dynamic .f64 0]⟩

/-- A node of the last two bits of each element. -/
def lastBitsNode : Node :=
  ⟨.elementwise lastBits .empty, [.dynamic .i64 1], [.dynamic .i64 1]⟩

/-- Both nodes are built, and both kernels fail at their first element. -/
theorem vectorized_runs_iff_composites :
    (∃ pair, build constantTwo .empty constantTwoNode {} = .ok pair ∧
      pair.vectorized.call [] = .error (.inOperator .noOperand) ∧
      ¬ ∃ value, pair.vectorized.call [] = .ok value) ∧
    ∃ pair, build lastBits .empty lastBitsNode {} = .ok pair ∧
      ¬ ∃ value, pair.vectorized.call [⟨.i64, [2], .signed #[5, 6]⟩] = .ok value := by
  constructor
  · refine ⟨_, rfl, rfl, ?_⟩
    rw [(vectorized_runs_iff constantTwo .empty constantTwoNode {} _ rfl [] (by simp) rfl []
      rfl).1]
    decide
  · refine ⟨_, rfl, ?_⟩
    rw [(vectorized_runs_iff lastBits .empty lastBitsNode {} _ rfl
      [⟨.i64, [2], .signed #[5, 6]⟩] (by decide) rfl [2] rfl).1]
    decide

end Elementwise

end LoopKernels
