import LoopKernels.Gufunc.Signature
import LoopKernels.Node.Basic
import LoopKernels.Shape.StaticLength
import LoopKernels.Tensor.Error

/-!
# Errors of kernels

Building a kernel or running it fails for one of the causes below. Causes of the
kernel layer itself fall into six categories, which open their messages; errors
of the layers beneath pass through unchanged.
-/

namespace LoopKernels

/-- The causes by which building or running a kernel fails. -/
inductive KernelError where
  /-- A scalar operator that cannot accumulate. -/
  | noUpdate (operator : String)
  /-- A bitwise operator that would accumulate floats. -/
  | bitwiseUpdate (operator : String) (e : ElemType)
  /-- A bitwise operator on float operands. -/
  | bitwiseOnFloats (operator : String)
  /-- A reduction whose operator has no neutral element. -/
  | noNeutral (operator : String)
  | inputCount (op : String) (count : Nat)
  | gradientInputs (count : Nat)
  /-- A function supplied from outside that is not there. -/
  | unimplemented (subject reason : String)
  | outputCount (op : String) (count : Nat)
  | signatureOutputs (count : Nat)
  | elementwiseOutputs (count : Nat)
  | reuse (output input inputs outputs : Nat)
  | storeOutputs (count : Nat)
  | noOutputType
  | notElementwise (kind : String)
  /-- An axis flagged to stretch that is longer than one. -/
  | flaggedLength (input axis length : Nat)
  | unequalLengths (input length axis expected : Nat)
  | noCommonShape (shapes : List Shape)
  /-- An axis of length one that would stretch without being flagged. -/
  | stretchNotAllowed (input axis length : Nat)
  | argumentRank (position rank : Nat) (signature : String) (expected : Nat)
  | resultRank (rank : Nat) (signature : String) (declared : Nat)
  | inputRank (kernel : String) (rank : Nat) (shape : Shape)
  | storeInputs (takes builtFor : Nat)
  | patternShape (input : Nat) (shape : Shape) (pattern rank : Nat)
  | patternLength (input rank pattern : Nat)
  | shuffleInputRank (declared rank : Nat)
  | shuffleOutputRank (produced rank : Nat)
  | argumentCount (kernel : String) (expected got : Nat)
  | loadPastEnd (offset : Nat) (shape : Shape)
  | storeWithoutSlots
  | vectorizedCount (expected got : Nat)
  | readPastEnd (offset : Nat)
  | referenceCount (expected got : Nat)
  | emptyArgmax
  /-- A failure reported by a function supplied from outside. -/
  | execution (reason : String)
  | inTensor (error : TensorError)
  | inOperator (error : OperatorError)
  | inAxis (error : AxisError)
  | inShuffle (error : ShuffleError)
  | inCore (error : SignatureError)
  | inStaticLength (error : StaticLengthError)
deriving DecidableEq, Repr

/-- The kinds of failure of the kernel layer. -/
inductive KernelErrorCategory where
  | unimplemented
  | unsupported
  | broadcast
  | signature
  | shape
  | execution
  /-- The error comes from a layer beneath. -/
  | passed
deriving DecidableEq, Repr

namespace KernelError

/-- The category of an error. -/
def category : KernelError → KernelErrorCategory
  | noUpdate .. | bitwiseUpdate .. | bitwiseOnFloats .. | noNeutral .. | inputCount ..
  | gradientInputs .. | unimplemented .. => .unimplemented
  | outputCount .. | signatureOutputs .. | elementwiseOutputs .. | reuse .. | storeOutputs ..
  | noOutputType | notElementwise .. => .unsupported
  | flaggedLength .. | unequalLengths .. | noCommonShape .. | stretchNotAllowed .. => .broadcast
  | argumentRank .. | resultRank .. => .signature
  | inputRank .. | storeInputs .. | patternShape .. | patternLength .. | shuffleInputRank ..
  | shuffleOutputRank .. => .shape
  | argumentCount .. | loadPastEnd .. | storeWithoutSlots | vectorizedCount .. | readPastEnd ..
  | referenceCount .. | emptyArgmax | execution .. => .execution
  | inTensor _ | inOperator _ | inAxis _ | inShuffle _ | inCore _ | inStaticLength _ => .passed

/-- The words for a cause, without those of its category. -/
def detail : KernelError → String
  | noUpdate operator =>
    operator ++ " is not implemented: no in-place update statement is registered for this scalar op"
  | bitwiseUpdate operator e =>
    operator ++ " is not implemented: bitwise in-place update on " ++ e.name
  | bitwiseOnFloats operator =>
    operator ++ " is not implemented: bitwise scalar op on floating-point operands"
  | noNeutral operator =>
    operator ++ " is not implemented: reduction operator without an identity"
  | inputCount op count =>
    op ++ " is not implemented: expected one input, node has " ++ toString count
  | gradientInputs count =>
    "SoftmaxGrad is not implemented: expected inputs (dy, sm), node has " ++ toString count
  | unimplemented subject reason => subject ++ " is not implemented: " ++ reason
  | outputCount op count => op ++ " expects one output, node has " ++ toString count
  | signatureOutputs count =>
    "signature inference needs exactly one output, node has " ++ toString count
  | elementwiseOutputs count =>
    "multi-output elemwise ops are not supported by the loop backend (node has " ++
      toString count ++ " outputs)"
  | reuse output input inputs outputs =>
    "in-place pattern maps output " ++ toString output ++ " to input " ++ toString input ++
      " on a node with " ++ toString inputs ++ " input(s) and " ++ toString outputs ++ " output(s)"
  | storeOutputs count => "core output store supports a single output, got " ++ toString count
  | noOutputType => "vectorized kernel without outputs"
  | notElementwise kind => "compile_elemwise called on a " ++ kind ++ " node"
  | flaggedLength input axis length =>
    "input " ++ toString input ++ " axis " ++ toString axis ++
      " is broadcastable but has length " ++ toString length
  | unequalLengths input length axis expected =>
    "incompatible vectorized shapes: input " ++ toString input ++ " has length " ++
      toString length ++ " on non-broadcastable axis " ++ toString axis ++ ", expected " ++
      toString expected
  | noCommonShape shapes => (TensorError.broadcast shapes).message
  | stretchNotAllowed input axis length =>
    "broadcast not allowed: input " ++ toString input ++ " axis " ++ toString axis ++
      " has length 1 and is not broadcastable against length " ++ toString length
  | argumentRank position rank signature expected =>
    "argument " ++ toString position ++ " has rank " ++ toString rank ++ ", signature " ++
      signature ++ " expects " ++ toString expected
  | resultRank rank signature declared =>
    "kernel produced rank " ++ toString rank ++ ", signature " ++ signature ++ " declares " ++
      toString declared
  | inputRank kernel rank shape =>
    kernel ++ " expects a rank-" ++ toString rank ++ " input, got shape " ++ Inspect.nats shape
  | storeInputs takes builtFor =>
    "scalar kernel takes " ++ toString takes ++ " input(s), store was built for " ++
      toString builtFor
  | patternShape input shape pattern rank =>
    "input " ++ toString input ++ " has shape " ++ Inspect.nats shape ++
      " and broadcast pattern of length " ++ toString pattern ++ ", expected rank " ++
      toString rank
  | patternLength input rank pattern =>
    "input " ++ toString input ++ " has rank " ++ toString rank ++
      " but a broadcast pattern of length " ++ toString pattern
  | shuffleInputRank declared rank =>
    "dimshuffle declared for rank " ++ toString declared ++ ", node input has rank " ++
      toString rank
  | shuffleOutputRank produced rank =>
    "dimshuffle produces rank " ++ toString produced ++ ", node output has rank " ++ toString rank
  | argumentCount kernel expected got =>
    kernel ++ " expects " ++ toString expected ++ " argument(s), got " ++ toString got
  | loadPastEnd offset shape =>
    "load at offset " ++ toString offset ++ " past the end of an array of shape " ++
      Inspect.nats shape
  | storeWithoutSlots => "core output store called without outputs"
  | vectorizedCount expected got =>
    "vectorized kernel expects " ++ toString expected ++ " input(s), got " ++ toString got
  | readPastEnd offset => "input read at offset " ++ toString offset ++ " out of range"
  | referenceCount expected got =>
    "reference elemwise expects " ++ toString expected ++ " input(s), got " ++ toString got
  | emptyArgmax => "attempt to get argmax of an empty sequence"
  | execution reason => reason
  | inTensor error => error.message
  | inOperator error => error.message
  | inAxis error => error.message
  | inShuffle error => error.message
  | inCore error => error.message
  | inStaticLength error => error.message

/-- The text of an error. -/
def message (error : KernelError) : String :=
  match error.category with
  | .unimplemented | .passed => error.detail
  | .unsupported => "unsupported kernel configuration: " ++ error.detail
  | .broadcast => "broadcast violation: " ++ error.detail
  | .signature => "kernel signature mismatch: " ++ error.detail
  | .shape => "shape mismatch: " ++ error.detail
  | .execution => "kernel execution failure: " ++ error.detail

/-- An array operation within a kernel. -/
def ofTensor {α : Type} : Except TensorError α → Except KernelError α
  | .ok a => .ok a
  | .error e => .error (.inTensor e)

/-- A scalar operator applied within a kernel. -/
def ofOperator {α : Type} : Except OperatorError α → Except KernelError α
  | .ok a => .ok a
  | .error e => .error (.inOperator e)

/-- Axes resolved for a kernel. -/
def ofAxis {α : Type} : Except AxisError α → Except KernelError α
  | .ok a => .ok a
  | .error e => .error (.inAxis e)

/-- A shuffle checked for a kernel. -/
def ofShuffle {α : Type} : Except ShuffleError α → Except KernelError α
  | .ok a => .ok a
  | .error e => .error (.inShuffle e)

/-- A core signature read or bound for a kernel. -/
def ofCore {α : Type} : Except SignatureError α → Except KernelError α
  | .ok a => .ok a
  | .error e => .error (.inCore e)

/-- Static lengths compared for a kernel. -/
def ofStaticLength {α : Type} : Except StaticLengthError α → Except KernelError α
  | .ok a => .ok a
  | .error e => .error (.inStaticLength e)

end KernelError

end LoopKernels
