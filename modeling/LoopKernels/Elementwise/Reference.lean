import LoopKernels.Elementwise.ScalarKernel
import LoopKernels.Reduction.Axis

/-!
# Elementwise evaluation by broadcasting

The plain way to evaluate elementwise: stretch all inputs to their common shape,
run the scalar kernel at every coordinate, and sum the result over the axes on
which the output may stretch. An input is stretched only on axes where its
pattern allows it.
-/

namespace LoopKernels.Reference

/-- No axis of an input stretches without leave; lengths are given with the lengths
    they meet and the leave to stretch, from an axis on. -/
def checkAxes (number : Nat) : Nat → List (Nat × Nat × Bool) → Except KernelError Unit
  | _, [] => .ok ()
  | axis, (length, target, leave) :: rest =>
    if length = 1 ∧ target ≠ 1 ∧ ¬leave then .error (.stretchNotAllowed number axis target)
    else checkAxes number (axis + 1) rest

/-- Checks each input against the common shape; the first has the given number. -/
def checkInputs (shape : Shape) : Nat → List (Tensor × List Bool) → Except KernelError Unit
  | _, [] => .ok ()
  | number, (t, pattern) :: rest => do
    if pattern.length ≠ t.rank then throw (.patternLength number t.rank pattern.length)
    let target := shape.drop (shape.length - t.rank)
    checkAxes number 0 (t.shape.zip (target.zip pattern))
    checkInputs shape (number + 1) rest

/-- The output element at a coordinate. -/
def compute (kernel : ScalarKernel) (inputs : List Tensor) (coord : Coord) :
    Except KernelError Scalar := do
  let args ← inputs.mapM fun t => KernelError.ofTensor (t.get coord)
  kernel.eval args

/-- The sum over an axis, which stays with length one. -/
def sumAxis (rank : Nat) (t : Tensor) (axis : Nat) : Except KernelError Tensor := do
  let sum ← AxisReducer.build (.prim .add) (.int 0) axis rank t.elem true false
  let value ← sum.reduce t true
  pure value.toTensor

/-- The axes of a rank that a pattern flags. -/
def flagged (pattern : List Bool) (rank : Nat) : List Nat :=
  (List.range rank).filter fun axis => pattern.getD axis false

/-- Evaluates the kernel on the stretched inputs. -/
def eval (kernel : ScalarKernel) (patterns : List (List Bool)) (outputPattern : List Bool)
    (inputs : List Tensor) : Except KernelError Tensor := do
  if inputs.length ≠ patterns.length then
    throw (.referenceCount patterns.length inputs.length)
  let shapes := inputs.map Tensor.shape
  match Shape.broadcast? shapes with
  | none => throw (.noCommonShape shapes)
  | some shape =>
    checkInputs shape 0 (inputs.zip patterns)
    let stretched ← inputs.mapM fun t => KernelError.ofTensor (t.broadcastTo shape)
    let _ ← KernelError.ofTensor shape.elementCount
    let values ← (Shape.coordinates shape).mapM (compute kernel stretched)
    let output ← KernelError.ofTensor (Tensor.ofScalars kernel.output shape values)
    (flagged outputPattern shape.length).foldlM (sumAxis shape.length) output

end LoopKernels.Reference
