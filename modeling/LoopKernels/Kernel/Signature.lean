import LoopKernels.Gufunc.Binding
import LoopKernels.Gufunc.Reader
import LoopKernels.Kernel.Error
import LoopKernels.Tensor.Value

/-!
# Signatures of kernels

A signature gives the element type and rank of each argument and of the result.
A kernel that has one converts its arguments to the declared element types,
refuses arguments of another number or rank, and brings its result into the
declared form.
-/

namespace LoopKernels

/-- Element type and rank of an argument or a result. -/
structure ArgType where
  elem : ElemType
  rank : Nat
deriving DecidableEq, Repr

namespace ArgType

/-- The element type and the rank of a type. -/
def ofType (t : TensorType) : ArgType := ⟨t.elem, t.rank⟩

/-- The text of an argument type in messages and headings. -/
def text (a : ArgType) : String := a.elem.name ++ "[ndim=" ++ toString a.rank ++ "]"

/-- The argument type when it is inspected. -/
def inspect (a : ArgType) : String :=
  "ArgType \x7b dtype: " ++ a.elem.title ++ ", ndim: " ++ toString a.rank ++ " \x7d"

end ArgType

/-- The types of the arguments and of the result of a kernel. -/
structure Signature where
  inputs : List ArgType
  output : ArgType
  /-- The result is a plain scalar and not an array without axes. -/
  outputScalar : Bool
deriving DecidableEq, Repr

namespace Signature

/-- The signature of a node that has one output. -/
def ofNode (node : Node) (scalar : Bool) : Except KernelError Signature :=
  match node.outputs with
  | [output] =>
    .ok ⟨node.inputs.map ArgType.ofType, ArgType.ofType output, scalar && output.rank == 0⟩
  | outputs => .error (.signatureOutputs outputs.length)

/-- The text of a signature in the heading of a kernel. -/
def text (s : Signature) : String :=
  "(" ++ String.intercalate ", " (s.inputs.map ArgType.text) ++ ") -> " ++ s.output.text ++
    (if s.outputScalar then " as scalar" else "")

/-- The signature field by field. -/
def inspect (s : Signature) : String :=
  "Signature \x7b inputs: " ++ Inspect.list ArgType.inspect s.inputs ++ ", output: " ++
    s.output.inspect ++ ", output_scalar: " ++ Inspect.flag s.outputScalar ++ " \x7d"

/-- The text of the signature with generated names for all axes. -/
def coreText (s : Signature) : String :=
  (CoreSignature.generated (s.inputs.map ArgType.rank) [s.output.rank]).render

/-- The signature in terms of core axes. -/
def core (s : Signature) : Except KernelError CoreSignature :=
  KernelError.ofCore (CoreSignature.read s.coreText)

/-- One argument in the declared form; its position is for the message. -/
def coerceInput (s : Signature) (position : Nat) (expected : ArgType) (t : Tensor) :
    Except KernelError Tensor :=
  if t.rank ≠ expected.rank then .error (.argumentRank position t.rank s.text expected.rank)
  else .ok (t.convert expected.elem)

/-- Arguments in the declared form, the first of which has the given position. -/
def coerceFrom (s : Signature) : Nat → List (ArgType × Tensor) → Except KernelError (List Tensor)
  | _, [] => .ok []
  | position, (expected, t) :: rest => do
    let first ← s.coerceInput position expected t
    let others ← s.coerceFrom (position + 1) rest
    pure (first :: others)

/-- The arguments converted to the declared element types. -/
def coerceInputs (s : Signature) (inputs : List Tensor) : Except KernelError (List Tensor) := do
  let core ← s.core
  let _ ← KernelError.ofCore (core.bind (inputs.map Tensor.shape))
  s.coerceFrom 0 (s.inputs.zip inputs)

/-- A result as a plain scalar or as an array, as far as the signature asks for it. -/
def coerceForm (s : Signature) : Value → Except KernelError Value
  | .tensor t =>
    if s.outputScalar && t.rank == 0 then do
      let value ← KernelError.ofTensor t.item
      pure (.scalar value t.elem)
    else .ok (.tensor t)
  | .scalar value elem =>
    if s.outputScalar then .ok (.scalar value elem) else .ok (.tensor (Tensor.single value elem))

/-- The result in the declared form. -/
def coerceOutput (s : Signature) (value : Value) : Except KernelError Value := do
  let formed ← s.coerceForm value
  if formed.shape.length ≠ s.output.rank then
    throw (.resultRank formed.shape.length s.text s.output.rank)
  pure (formed.convert s.output.elem)

end Signature

end LoopKernels
