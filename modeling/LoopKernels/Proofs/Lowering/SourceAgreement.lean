import LoopKernels.Proofs.Elementwise.Listing
import LoopKernels.Proofs.Lowering.AxisListing
import LoopKernels.Proofs.Lowering.ShuffleListing

/-!
# How far the source of a kernel determines its calls

Kernels that are no reductions are compared by their source. The source tells the family. It
tells everything of a softmax, of an argmax, of a gradient along an axis and of an elementwise
kernel with a primitive operator: kernels of these with the same source agree on all
arguments. Three things are left out elsewhere, and two kernels with the same source agree
exactly when their nodes are the same in these:

- an elementwise kernel shows a composite by an expression that leaves steps out;
- a shuffle that moves no axes does not show how many there are, which makes no difference where
  the shape it gives is too large to be counted;
- the gradient of a softmax of the whole array does not show the type it gives.
-/

namespace LoopKernels

/-! ## Elementwise nodes -/

namespace Elementwise

/-- The title of a vectorized kernel is plain. -/
theorem plainTitle (operator : Operator) (core : OutputStore) (plan : BatchPlan) (target : Target) :
    (vectorizedDefinition ("elemwise_" ++ operator.name) core plan target).PlainTitle := by
  have words : ' ' ∉ operator.name.toList ∧ '\n' ∉ operator.name.toList := by
    cases operator with
    | prim p => exact ⟨p.notMem_name rfl (by decide), p.notMem_name rfl (by decide)⟩
    | composite inputs steps output =>
      exact ⟨show ' ' ∉ "composite".toList by decide, show '\n' ∉ "composite".toList by decide⟩
  refine ⟨?_, ?_, show '\n' ∉ "loop.elemwise".toList by decide⟩
  · show ' ' ∉ ("elemwise_" ++ operator.name).toList
    simp [words.1]
  · show '\n' ∉ ("elemwise_" ++ operator.name).toList
    simp [words.2]

/-- The name of a primitive operator tells it. -/
theorem eq_prim_of_name {p : Primitive} {operator : Operator}
    (same : (Operator.prim p).name = operator.name) : operator = .prim p := by
  cases operator with
  | prim q => rw [Primitive.name_inj same]
  | composite inputs steps output =>
    have apart : ∀ p : Primitive, p.name ≠ "composite" := by
      intro p
      cases p <;> decide
    exact absurd same (apart p)

/-- Elementwise kernels with the same source agree exactly when their operators store the same
    values, or when the declared ranks allow no call. With a primitive operator they agree. -/
theorem agrees_iff_of_source {operator other : Operator} {reuse otherReuse : ReuseMap}
    {node second : Node} {config otherConfig : Config} {pair otherPair : KernelPair}
    (built : build operator reuse node config = .ok pair)
    (otherBuilt : build other otherReuse second otherConfig = .ok otherPair)
    (same : pair.vectorized.source = otherPair.vectorized.source) :
    (pair.vectorized.Agrees otherPair.vectorized ↔
      Vectorized.Ragged (node.inputs.map TensorType.broadcastable) ∨
        ∀ output ∈ node.outputs, ∀ args : List Scalar, args.length = node.inputs.length →
          operator.stored? args output.elem = other.stored? args output.elem) ∧
    ∀ p, operator = .prim p → pair.vectorized.Agrees otherPair.vectorized := by
  obtain ⟨output, single, -, -, kernel⟩ := build_vectorized _ _ _ _ _ built
  obtain ⟨otherOutput, otherSingle, -, -, otherKernel⟩ := build_vectorized _ _ _ _ _ otherBuilt
  rw [kernel, otherKernel] at same ⊢
  obtain ⟨names, -, -, -, listings⟩ :=
    Kernel.source_inj (plainTitle _ _ _ _) (plainTitle _ _ _ _) same
  obtain ⟨patterns, types⟩ := vectorizedListing_inj rfl rfl listings
  have constants : SameConstants
      ⟨⟨operator, node.inputs.map TensorType.elem, output.elem⟩, node.inputs.length, 1⟩
      ⟨⟨other, second.inputs.map TensorType.elem, otherOutput.elem⟩, second.inputs.length, 1⟩
      ⟨node.inputs.map TensorType.broadcastable, [output.broadcastable], [output.elem], reuse.pairs⟩
      ⟨second.inputs.map TensorType.broadcastable, [otherOutput.broadcastable],
        [otherOutput.elem], otherReuse.pairs⟩ output.elem :=
    ⟨patterns.symm, rfl, congrArg (fun e => [e]) types.symm, rfl, types.symm⟩
  rw [constants.agrees_iff]
  refine ⟨by simp [single], ?_⟩
  rintro p rfl
  right
  intro args _
  rw [eq_prim_of_name ((String.append_right_inj _).mp names)]

end Elementwise

/-! ## All families -/

/-- The operators of which the source tells everything. -/
def Op.isFullyListed : Op → Bool
  | .elementwise (.prim _) _ | .softmax _ | .logSoftmax _ => true
  | .softmaxGrad (some _) | .argmax _ => true
  | _ => false

/-- Two nodes are the same in what their source leaves out. -/
def Node.SameUnlisted (first second : Node) : Prop :=
  match first.op, second.op with
  | .elementwise operator _, .elementwise other _ =>
    Vectorized.Ragged (first.inputs.map TensorType.broadcastable) ∨
      ∀ output ∈ first.outputs, ∀ args : List Scalar, args.length = first.inputs.length →
        operator.stored? args output.elem = other.stored? args output.elem
  | .shuffle s, .shuffle other =>
    s.inputRank = other.inputRank ∨
      ∃ output ∈ first.outputs, ∃ shape ∈ output.staticShape?, ¬ Shape.CountFits shape
  | .softmaxGrad axis, .softmaxGrad _ =>
    axis.isSome = true ∨
      first.outputs.map TensorType.elem = second.outputs.map TensorType.elem
  | _, _ => True

namespace Lowering

/-- A kernel that is no reduction carries the label of its family, in a plain title. -/
theorem plainTitle_of_compile {node : Node} (notReduction : node.op.isReduction = false)
    {config : Config} {k : Kernel} (compiled : node.compile config = .ok k) :
    k.definition.PlainTitle ∧ k.label = Node.label node.op := by
  unfold Node.compile at compiled
  cases op : node.op with
  | elementwise operator reuse =>
    simp only [op, Outcome.bind_eq_ok] at compiled
    obtain ⟨pair, built, same⟩ := compiled
    obtain rfl := Except.ok.inj same
    obtain ⟨output, -, -, -, kernel⟩ := Elementwise.build_vectorized _ _ _ _ _ built
    rw [kernel]
    exact ⟨Elementwise.plainTitle _ _ _ _, rfl⟩
  | reduce operator axes accumulator => simp [op, Op.isReduction] at notReduction
  | sum axes accumulator => simp [op, Op.isReduction] at notReduction
  | shuffle s =>
    simp only [op] at compiled
    obtain ⟨p, -, -, rfl⟩ := shuffle_eq_ok compiled
    exact ⟨p.plainTitle, rfl⟩
  | softmax axis =>
    simp only [op] at compiled
    obtain ⟨_, _, _, _, _, -, -, rfl⟩ := softmax_eq_ok compiled
    exact ⟨Softmax.plainTitle _, rfl⟩
  | logSoftmax axis =>
    simp only [op] at compiled
    obtain ⟨_, _, _, _, _, -, -, rfl⟩ := softmax_eq_ok compiled
    exact ⟨Softmax.plainTitle _, rfl⟩
  | softmaxGrad axis =>
    simp only [op] at compiled
    obtain ⟨_, _, _, _, -, -, -, rfl⟩ := softmaxGradient_eq_ok compiled
    exact ⟨SoftmaxGradient.plainTitle _, rfl⟩
  | argmax axes =>
    simp only [op] at compiled
    obtain ⟨p, -, rfl⟩ := argmax_eq_ok compiled
    exact ⟨p.plainTitle, rfl⟩

/-- Shuffles with the same source agree exactly when they take the same rank, or when the shape
    they give cannot be counted. -/
theorem shuffle_agrees_iff {node other : Node} {s t : Shuffle} {config otherConfig : Config}
    {k l : Kernel} (compiled : shuffle node s config = .ok k)
    (otherCompiled : shuffle other t otherConfig = .ok l) (same : k.source = l.source) :
    k.Agrees l ↔ s.inputRank = t.inputRank ∨
      ∃ output ∈ node.outputs, ∃ shape ∈ output.staticShape?, ¬ Shape.CountFits shape := by
  obtain ⟨output, only, formed, rfl⟩ := shuffle_compiled compiled
  obtain ⟨q, otherFormed, rfl, rfl⟩ := shuffle_eq_ok otherCompiled
  obtain ⟨-, -, -, -, listings⟩ :=
    Kernel.source_inj (ShufflePlan.plainTitle _) q.plainTitle same
  rw [formed.agrees_iff otherFormed listings]
  simp [Node.outputs_of_onlyOutput only, ShufflePlan.Countable]

/-- Kernels with the same source are of one family. They agree exactly when their nodes are the
    same in what the source leaves out, which is nothing for the operators listed in full. -/
theorem source_determines_calls_iff (first second : Node)
    (notReduction : first.op.isReduction = false)
    (otherNotReduction : second.op.isReduction = false) (config other : Config) (k l : Kernel)
    (compiled : first.compile config = .ok k) (otherCompiled : second.compile other = .ok l)
    (same : k.source = l.source) :
    first.op.kind = second.op.kind ∧ (k.Agrees l ↔ first.SameUnlisted second) ∧
      (first.op.isFullyListed = true → k.Agrees l) := by
  obtain ⟨plain, label⟩ := plainTitle_of_compile notReduction compiled
  obtain ⟨otherPlain, otherLabel⟩ := plainTitle_of_compile otherNotReduction otherCompiled
  obtain ⟨-, labels, -⟩ := Kernel.source_inj plain otherPlain same
  rw [label, otherLabel] at labels
  have equal : k = l → k.Agrees l := by
    rintro rfl
    exact k.agrees_refl
  unfold Node.compile at compiled otherCompiled
  unfold Node.SameUnlisted
  -- Different families have different labels, so both nodes are of the same one.
  cases op : first.op <;> cases otherOp : second.op <;>
    simp only [op, otherOp, Node.label, String.reduceEq] at labels compiled otherCompiled
  case elementwise.elementwise operator reuse otherOperator otherReuse =>
    obtain ⟨pair, built, made⟩ := (Outcome.bind_eq_ok _ _ _).mp compiled
    obtain ⟨otherPair, otherBuilt, otherMade⟩ := (Outcome.bind_eq_ok _ _ _).mp otherCompiled
    obtain rfl := Except.ok.inj made
    obtain rfl := Except.ok.inj otherMade
    obtain ⟨agrees, primitive⟩ := Elementwise.agrees_iff_of_source built otherBuilt same
    refine ⟨rfl, agrees, ?_⟩
    cases operator with
    | prim p => exact fun _ => primitive p rfl
    | composite inputs steps output => simp [Op.isFullyListed]
  case reduce.reduce => simp [op, Op.isReduction] at notReduction
  case sum.sum => simp [op, Op.isReduction] at notReduction
  case shuffle.shuffle =>
    exact ⟨rfl, shuffle_agrees_iff compiled otherCompiled same, by simp [Op.isFullyListed]⟩
  case softmax.softmax =>
    have agree := equal (softmax_eq_of_source compiled otherCompiled same)
    exact ⟨rfl, iff_of_true agree trivial, fun _ => agree⟩
  case logSoftmax.logSoftmax =>
    have agree := equal (softmax_eq_of_source compiled otherCompiled same)
    exact ⟨rfl, iff_of_true agree trivial, fun _ => agree⟩
  case softmaxGrad.softmaxGrad axis otherAxis =>
    have agrees := (softmaxGradient_agrees_iff compiled otherCompiled same).2
    refine ⟨rfl, agrees, ?_⟩
    cases axis with
    | none => simp [Op.isFullyListed]
    | some number => exact fun _ => agrees.mpr (.inl rfl)
  case argmax.argmax =>
    have agree := equal (argmax_eq_of_source compiled otherCompiled same)
    exact ⟨rfl, iff_of_true agree trivial, fun _ => agree⟩

/-- The gradient of a softmax of the whole array, into a given type. -/
def wholeGradient (output : ElemType) : Node :=
  ⟨.softmaxGrad none, [.dynamic .f64 1, .dynamic .f64 1], [.dynamic output 1]⟩

/-- The first axis of an array, the others being dropped. -/
def firstAxis (rank : Nat) : Node :=
  ⟨.shuffle ⟨rank, [.axis 0], false⟩, [.dynamic .i64 rank], [.dynamic .i64 1]⟩

/-- Doubles divided by a half into integers, by way of the given operand of the division. -/
def divided (steps : List (Operator × List Operand)) (dividend : Operand) : Node :=
  ⟨.elementwise (.composite 1 (steps ++ [(.prim .trueDiv, [dividend, .const 0.5])])
    (.step steps.length)) .empty, [.dynamic .f64 1], [.dynamic .i64 1]⟩

/-- Gradients into two types, shuffles of two ranks, and divisions of an operand that is cast first
    or not: in each pair both have the same source, and they do not agree. -/
theorem source_determines_calls_iff_unlisted :
    (∃ k l, (wholeGradient .f64).compile {} = .ok k ∧ (wholeGradient .i64).compile {} = .ok l ∧
      k.source = l.source ∧ ¬ k.Agrees l) ∧
    (∃ k l, (firstAxis 1).compile {} = .ok k ∧ (firstAxis 2).compile {} = .ok l ∧
      k.source = l.source ∧ ¬ k.Agrees l) ∧
    ∃ k l, (divided [] (.input 0)).compile {} = .ok k ∧
      (divided [(.prim .identity, [.input 0])] (.step 0)).compile {} = .ok l ∧
      k.source = l.source ∧ ¬ k.Agrees l := by
  refine ⟨?_, ?_, ?_⟩
  · obtain ⟨k, l, first, second, same⟩ :=
      exists_same_source (wholeGradient .f64) (wholeGradient .i64) {} {} (by decide +kernel)
    refine ⟨k, l, first, second, same, ?_⟩
    rw [(source_determines_calls_iff _ _ rfl rfl _ _ k l first second same).2.1]
    show ¬ (_ ∨ _)
    decide
  · obtain ⟨k, l, first, second, same⟩ :=
      exists_same_source (firstAxis 1) (firstAxis 2) {} {} (by decide +kernel)
    refine ⟨k, l, first, second, same, ?_⟩
    rw [(source_determines_calls_iff _ _ rfl rfl _ _ k l first second same).2.1]
    show ¬ (_ ∨ _)
    decide
  · obtain ⟨k, l, first, second, same⟩ := exists_same_source (divided [] (.input 0))
      (divided [(.prim .identity, [.input 0])] (.step 0)) {} {} (by decide +kernel)
    refine ⟨k, l, first, second, same, ?_⟩
    rw [(source_determines_calls_iff _ _ rfl rfl _ _ k l first second same).2.1]
    rintro (⟨first, listed, second, otherListed, apart⟩ | alike)
    · simp_all [divided]
    · -- The dividend 1.5 gives 3, and cast first it gives 2.
      have values := alike (.dynamic .i64 1) (by simp [divided]) [.float 1.5] rfl
      exact absurd values (by decide +kernel)

end Lowering

end LoopKernels
