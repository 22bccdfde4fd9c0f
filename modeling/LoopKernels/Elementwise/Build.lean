import LoopKernels.Elementwise.Reference
import LoopKernels.Elementwise.Vectorized

/-!
# Elementwise kernels

An elementwise node gives two kernels of the same meaning: a batched one, and one
that broadcasts plainly and serves to check the other. A node is refused when the
lengths known of its inputs can never be broadcast together.
-/

namespace LoopKernels.Elementwise

/-- Both kernels of an elementwise node. -/
structure KernelPair where
  vectorized : Kernel
  reference : Kernel
  /-- What building them reported. -/
  events : List Event

/-- The constants of a listing are quoted, so quotes inside them change. -/
def listedConstant (constant : Json) : String :=
  String.ofList (constant.compact.toList.map fun c => if c = '"' then '\x27' else c)

/-- The text of a vectorized kernel: its core, the constants that describe the batch, and the call
    that runs over it. -/
def vectorizedListing (name : String) (core : OutputStore) (plan : BatchPlan)
    (target : Target) : Listing :=
  let params := Listing.commas (operandNames core.kernel.inputCount)
  let constant (key : String) (value : Json) : Line :=
    ⟨2, key ++ " = \"" ++ listedConstant value ++ "\","⟩
  core.listing ++
    [⟨0, name ++ "(" ++ params ++ ") \x7b"⟩, ⟨1, "return vectorized("⟩,
      ⟨2, "store_core_outputs,"⟩,
      constant "input_bc_patterns" (BatchPlan.patternsJson plan.inputPatterns),
      constant "output_bc_patterns" (BatchPlan.patternsJson plan.outputPatterns),
      constant "output_dtypes" (BatchPlan.typesJson plan.outputTypes),
      constant "inplace_pattern" (BatchPlan.reuseJson plan.reuse),
      ⟨2, "target = \"" ++ target.name ++ "\","⟩, ⟨2, "inputs = (" ++ params ++ "));"⟩,
      ⟨0, "\x7d"⟩]

/-- The batched kernel. The target is part of its listing and does not change its result. -/
def vectorizedDefinition (name : String) (core : OutputStore) (plan : BatchPlan)
    (target : Target) : Definition where
  name := name
  label := "loop.elemwise"
  listing := vectorizedListing name core plan target
  run _ inputs := do
    let result ← Vectorized.eval core plan inputs
    pure (.tensor result)
  reports := Vectorized.reports core plan

/-- The text of a reference kernel: the inputs are stretched, one loop runs over all indices, and
    the output is summed down to its pattern. -/
def referenceListing (name : String) (kernel : ScalarKernel) (outputPattern : List Bool) :
    Listing :=
  let params := Listing.commas (operandNames kernel.inputCount)
  let args := (List.range kernel.inputCount).map fun i => "inputs_bc[" ++ toString i ++ "][idx]"
  let summed := Reference.flagged outputPattern outputPattern.length
  [⟨0, name ++ "(" ++ params ++ ") \x7b"⟩,
    ⟨1, "inputs_bc = broadcast_arrays(" ++ params ++ ");"⟩,
    ⟨1, "shape = inputs_bc[0].shape;"⟩,
    ⟨1, "check_broadcastable((" ++ params ++ "), shape);"⟩,
    ⟨1, "out = empty(shape, " ++ kernel.output.name ++ ");"⟩,
    ⟨1, "for (idx : ndindex(shape)) \x7b"⟩,
    ⟨2, "out[idx] = " ++ kernel.expression args ++ ";"⟩,
    ⟨1, "\x7d"⟩,
    ⟨1, "return sum(out, axes = (" ++ Listing.commas (summed.map toString) ++
      "), keepdims = true);"⟩,
    ⟨0, "\x7d"⟩]

/-- The kernel that evaluates one index after the other. -/
def referenceDefinition (name : String) (kernel : ScalarKernel) (patterns : List (List Bool))
    (outputPattern : List Bool) : Definition where
  name := name
  label := "loop.elemwise.reference"
  listing := referenceListing name kernel outputPattern
  run _ inputs := do
    let result ← Reference.eval kernel patterns outputPattern inputs
    pure (.tensor result)

/-- Every pair of the map names an output and an input of the node. -/
def checkReuse (inputs outputs : Nat) : List (Nat × Nat) → Except KernelError Unit
  | [] => .ok ()
  | (output, input) :: rest =>
    if outputs ≤ output ∨ inputs ≤ input then .error (.reuse output input inputs outputs)
    else checkReuse inputs outputs rest

/-- The greatest rank of the inputs. -/
def greatestRank (inputs : List TensorType) : Nat :=
  (inputs.map TensorType.rank).foldl max 0

/-- The lengths of the inputs on an axis of the greatest rank, shorter inputs being
    aligned to the right. -/
def lengthsAt (inputs : List TensorType) (rank axis : Nat) : List (Option Nat) :=
  inputs.filterMap fun t => if rank - t.rank ≤ axis then t.shape[axis - (rank - t.rank)]? else none

/-- The known lengths of the inputs can be broadcast together. -/
def checkStatic (inputs : List TensorType) : Except KernelError Unit :=
  let rank := greatestRank inputs
  (List.range rank).forM fun axis => do
    let _ ← KernelError.ofStaticLength (StaticLength.broadcast (lengthsAt inputs rank axis))

/-- Both kernels of a node with an elementwise operator. -/
def build (operator : Operator) (reuse : ReuseMap) (node : Node) (config : Config) :
    Except KernelError KernelPair :=
  match node.outputs with
  | [output] => do
    let count := node.inputs.length
    checkReuse count 1 reuse.pairs
    checkStatic node.inputs
    let kernel ← ScalarKernel.build operator (node.inputs.map TensorType.elem) output.elem
    let core ← OutputStore.build kernel count 1
    let plan : BatchPlan :=
      ⟨node.inputs.map TensorType.broadcastable, [output.broadcastable], [output.elem],
        reuse.pairs⟩
    let name := "elemwise_" ++ operator.name
    let options := Options.ofConfig config
    let vectorized ← Kernel.compile (vectorizedDefinition name core plan config.target) none options
    let reference ← Kernel.compile
      (referenceDefinition (name ++ "_reference") kernel plan.inputPatterns output.broadcastable)
      none options
    let start : Event := ⟨.debug, "building elemwise kernel",
      [("kernel", name), ("nin", toString count), ("target", config.target.name)]⟩
    pure ⟨vectorized, reference, start :: vectorized.events ++ reference.events⟩
  | outputs => .error (.elementwiseOutputs outputs.length)

end LoopKernels.Elementwise
