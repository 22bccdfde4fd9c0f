import LoopKernels.Elementwise.ScalarKernel
import LoopKernels.Json.Writer
import LoopKernels.Kernel.Config
import LoopKernels.Tensor.Combine

/-!
# Batched elementwise evaluation

The broadcast patterns of the inputs are fixed in advance. All inputs have the
same rank. On an axis where the pattern of an input allows stretching, that input
has length one; the lengths of the other inputs on this axis agree and give the
length of the output. The scalar kernel then runs at every output position, the
stretched inputs being read at zero. The positions may be visited in any order and at the same
time, so the loop that visits them is a parameter.

The output may take over the buffer of an input of the same shape and element
type. That changes what is reported and not what is computed.
-/

namespace LoopKernels

/-- What is fixed of a batched evaluation before it runs. -/
structure BatchPlan where
  inputPatterns : List (List Bool)
  outputPatterns : List (List Bool)
  outputTypes : List ElemType
  /-- Pairs of an output and the input whose buffer it may take over. -/
  reuse : List (Nat × Nat)
deriving DecidableEq, Repr

namespace BatchPlan

/-- Broadcast patterns as a constant. -/
def patternsJson (patterns : List (List Bool)) : Json := Json.list (Json.list Json.bool) patterns

/-- The element types of the outputs, by their codes. -/
def typesJson (types : List ElemType) : Json := Json.list (fun e => .str e.code) types

/-- The pairs of an output and the input whose buffer it takes. -/
def reuseJson (pairs : List (Nat × Nat)) : Json :=
  Json.list (fun pair => .arr [Json.ofNat pair.1, Json.ofNat pair.2]) pairs

/-- All constants of the plan. -/
def toJson (plan : BatchPlan) : Json :=
  .obj [("input_bc_patterns", patternsJson plan.inputPatterns),
    ("output_bc_patterns", patternsJson plan.outputPatterns),
    ("output_dtypes", typesJson plan.outputTypes),
    ("inplace_pattern", reuseJson plan.reuse)]

end BatchPlan

/-- Runs a computation at the positions below a count. -/
abbrev Loop := Nat → (Nat → Except KernelError Scalar) → Except KernelError (List Scalar)

/-- One position after the other. -/
def Loop.serial : Loop := fun count compute => (List.range count).mapM compute

/-- An input together with the pattern of its axes. -/
abbrev PatternedInput := Tensor × List Bool

namespace Vectorized

/-- The rank that all inputs must have. -/
def commonRank : List Tensor → List (List Bool) → Nat
  | first :: _, _ => first.rank
  | [], pattern :: _ => pattern.length
  | [], [] => 0

/-- Inputs and patterns have the common rank; the first of them has the given number. -/
def checkRanks (rank : Nat) : Nat → List PatternedInput → Except KernelError Unit
  | _, [] => .ok ()
  | number, (t, pattern) :: rest =>
    if t.rank ≠ rank ∨ pattern.length ≠ rank then
      .error (.patternShape number t.shape pattern.length rank)
    else checkRanks rank (number + 1) rest

/-- The output length on an axis, the length that earlier inputs gave being known. -/
def axisLength (axis : Nat) : Nat → Option Nat → List PatternedInput → Except KernelError Nat
  | _, known, [] => .ok (known.getD 1)
  | number, known, (t, pattern) :: rest =>
    let length := t.shape.getD axis 0
    if pattern.getD axis false then
      if length ≠ 1 then .error (.flaggedLength number axis length)
      else axisLength axis (number + 1) known rest
    else
      match known with
      | none => axisLength axis (number + 1) (some length) rest
      | some expected =>
        if expected ≠ length then .error (.unequalLengths number length axis expected)
        else axisLength axis (number + 1) known rest

/-- The shape of the output. -/
def shape (inputs : List Tensor) (patterns : List (List Bool)) : Except KernelError Shape := do
  let rank := commonRank inputs patterns
  checkRanks rank 0 (inputs.zip patterns)
  (List.range rank).mapM fun axis => axisLength axis 0 none (inputs.zip patterns)

/-- The element of an input at a coordinate of the output. -/
def read (coord : Coord) (t : Tensor) (strides : List Nat) : Except KernelError Scalar :=
  match t.flat? (Shape.offset coord strides) with
  | some value => .ok value
  | none => .error (.readPastEnd (Shape.offset coord strides))

/-- The output element at a position. -/
def compute (core : OutputStore) (shape : Shape) (inputs : List (Tensor × List Nat))
    (position : Nat) : Except KernelError Scalar := do
  let coord := Shape.unravel position shape
  let args ← inputs.mapM fun (t, strides) => read coord t strides
  let slots ← core.store args [.int 0]
  pure (slots.headD (.int 0))

/-- The output elements in row-major order, computed by a loop. -/
def valuesBy (loop : Loop) (core : OutputStore) (shape : Shape) (inputs : List Tensor) :
    Except KernelError (List Scalar) := do
  let strides ← inputs.mapM fun t => KernelError.ofTensor (t.stretchStrides shape)
  let count ← KernelError.ofTensor (Shape.elementCount shape)
  loop count (compute core shape (inputs.zip strides))

/-- The input whose buffer the output takes over. -/
def reused (plan : BatchPlan) (inputs : List Tensor) (shape : Shape) (elem : ElemType) :
    Option (Nat × Tensor) := do
  let (_, input) ← plan.reuse.find? fun pair => pair.1 == 0
  let t ← inputs[input]?
  if t.shape = shape ∧ t.elem = elem then some (input, t) else none

/-- The scalar kernel at every position of the output, visited by a loop. -/
def evalBy (loop : Loop) (core : OutputStore) (plan : BatchPlan) (inputs : List Tensor) :
    Except KernelError Tensor := do
  if inputs.length ≠ plan.inputPatterns.length then
    throw (.vectorizedCount plan.inputPatterns.length inputs.length)
  match plan.outputTypes with
  | [] => throw .noOutputType
  | elem :: _ =>
    let shape ← shape inputs plan.inputPatterns
    let values ← valuesBy loop core shape inputs
    match reused plan inputs shape elem with
    | some (_, buffer) => KernelError.ofTensor (buffer.overwrite 0 values)
    | none => KernelError.ofTensor (Tensor.ofScalars elem shape values)

/-- The scalar kernel at one position of the output after the other. -/
def eval (core : OutputStore) (plan : BatchPlan) (inputs : List Tensor) :
    Except KernelError Tensor :=
  evalBy .serial core plan inputs

/-- What an evaluation reports: that it reuses a buffer. -/
def reports (core : OutputStore) (plan : BatchPlan) (inputs : List Tensor) : List Event :=
  match eval core plan inputs, plan.outputTypes with
  | .ok result, elem :: _ =>
    match reused plan inputs result.shape elem with
    | some (input, _) =>
      [⟨.debug, "elemwise output reuses input buffer", [("input", toString input)]⟩]
    | none => []
  | _, _ => []

end Vectorized

end LoopKernels
