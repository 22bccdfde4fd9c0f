import LoopKernels.Elementwise.Build
import LoopKernels.Lowering.Argmax
import LoopKernels.Lowering.Reduce
import LoopKernels.Lowering.Shuffle
import LoopKernels.Lowering.Softmax

/-!
# Compiling nodes

Every node becomes one kernel; an elementwise node becomes its batched kernel, and
both of its kernels can be asked for. Compiling reports the node first and then
the kernels that were compiled for it.
-/

namespace LoopKernels.Node

/-- The kernel of a node. -/
def compile (node : Node) (config : Config) : Except KernelError Kernel :=
  match node.op with
  | .elementwise operator reuse => do
    let pair ← Elementwise.build operator reuse node config
    pure pair.vectorized
  | .reduce operator axes accumulator => Lowering.reduce node operator axes accumulator config
  | .sum axes accumulator => Lowering.sum node axes accumulator config
  | .shuffle s => Lowering.shuffle node s config
  | .softmax axis => Lowering.softmax node false axis config
  | .logSoftmax axis => Lowering.softmax node true axis config
  | .softmaxGrad axis => Lowering.softmaxGradient node axis config
  | .argmax axes => Lowering.argmax node axes config

/-- Both kernels of an elementwise node. -/
def compileElementwise (node : Node) (config : Config) :
    Except KernelError Elementwise.KernelPair :=
  match node.op with
  | .elementwise operator reuse => Elementwise.build operator reuse node config
  | op => .error (.notElementwise op.kind)

/-- The label of the kernels of an operator. -/
def label : Op → String
  | .elementwise .. => "loop.elemwise"
  | .reduce .. => "loop.careduce"
  | .sum .. => "loop.sum"
  | .shuffle .. => "loop.dimshuffle"
  | .softmax .. => "loop.softmax"
  | .logSoftmax .. => "loop.log_softmax"
  | .softmaxGrad .. => "loop.softmax_grad"
  | .argmax .. => "loop.argmax"

/-- The report that a node is being compiled. -/
def compileStart (node : Node) : Event :=
  ⟨.debug, "funcify node",
    [("op", node.op.kind), ("label", label node.op), ("nin", toString node.inputs.length),
      ("nout", toString node.outputs.length)]⟩

/-- What compiling both kernels of an elementwise node reports. -/
def elementwiseEvents (node : Node) (config : Config) : List Event :=
  match node.compileElementwise config with
  | .ok pair => pair.events
  | .error _ => []

/-- What compiling a node reports. -/
def compileEvents (node : Node) (config : Config) : List Event :=
  node.compileStart ::
    match node.op with
    | .elementwise .. => node.elementwiseEvents config
    | _ =>
      match node.compile config with
      | .ok kernel => kernel.events
      | .error _ => []

end LoopKernels.Node
