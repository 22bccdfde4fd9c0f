import LoopKernels.Kernel.Error
import LoopKernels.Operator.Eval
import LoopKernels.Operator.Expression
import LoopKernels.Text.Listing

/-!
# The function of one element

A scalar kernel computes one output element from one element of every input. The
output store runs it and writes the result into the first of the slots it is
given.
-/

namespace LoopKernels

/-- An operator with the element types of its operands and of its result. -/
structure ScalarKernel where
  operator : Operator
  /-- Element types of the operands. -/
  inputs : List ElemType
  output : ElemType

namespace ScalarKernel

/-- The kernel of an operator. The operator must take this number of operands, and bitwise
    operators take no floats. -/
def build (operator : Operator) (inputs : List ElemType) (output : ElemType) :
    Except KernelError ScalarKernel := do
  KernelError.ofOperator (operator.checkArity inputs.length)
  if operator.isBitwise && (output.isFloat || inputs.any ElemType.isFloat) then
    throw (.bitwiseOnFloats operator.name)
  pure ⟨operator, inputs, output⟩

/-- How many operands the kernel takes. -/
def inputCount (k : ScalarKernel) : Nat := k.inputs.length

/-- The value of the operator at its operands, in the element type of the output. -/
def eval (k : ScalarKernel) (args : List Scalar) : Except KernelError Scalar :=
  KernelError.ofOperator (k.operator.eval args k.output)

/-- The expression that the kernel computes from named operands. -/
def expression (k : ScalarKernel) (args : List String) : String := k.operator.expression args

end ScalarKernel

/-- Names of the operands in listings. -/
def operandNames (count : Nat) : List String :=
  (List.range count).map fun i => "i" ++ toString i

/-- A scalar kernel that writes into slots. -/
structure OutputStore where
  kernel : ScalarKernel
  inputs : Nat
  outputs : Nat

namespace OutputStore

/-- The store for a kernel; it has one output and the inputs of the kernel. -/
def build (kernel : ScalarKernel) (inputs outputs : Nat) : Except KernelError OutputStore :=
  if outputs ≠ 1 then .error (.storeOutputs outputs)
  else if inputs ≠ kernel.inputCount then .error (.storeInputs kernel.inputCount inputs)
  else .ok ⟨kernel, inputs, outputs⟩

/-- The slots after the result is written into the first. -/
def store (s : OutputStore) (args : List Scalar) :
    List Scalar → Except KernelError (List Scalar)
  | [] => .error .storeWithoutSlots
  | _ :: rest => do
    let value ← s.kernel.eval args
    pure (value :: rest)

/-- The text of the store. -/
def listing (s : OutputStore) : Listing :=
  let outputs := (List.range s.outputs).map fun o => "o" ++ toString o
  [⟨0, "store_core_outputs(" ++ Listing.commas (operandNames s.inputs ++ outputs) ++ ") \x7b"⟩,
    ⟨1, "o0[()] = " ++ s.kernel.expression (operandNames s.inputs) ++ ";"⟩, ⟨0, "\x7d"⟩]

end OutputStore

end LoopKernels
