import LoopKernels.Operator.Basic
import LoopKernels.Node.Reuse
import LoopKernels.Node.Shuffle

/-!
# Graph nodes

A node is an operator on arrays together with the types of its inputs and
outputs. The type of an array says its element type, which lengths are known in
advance, and on which axes it may be stretched against a longer array.
-/

namespace LoopKernels

/-- What is known of an array before it exists. -/
structure TensorType where
  elem : ElemType
  /-- The length of each axis, where it is known. -/
  shape : List (Option Nat)
  /-- Axes of length one that may stretch. -/
  broadcastable : List Bool
deriving DecidableEq, Repr

/-- A broadcast pattern of the wrong length. -/
structure PatternError where
  pattern : Nat
  rank : Nat
deriving DecidableEq, Repr

/-- The text of a pattern error. -/
def PatternError.message (error : PatternError) : String :=
  "tensor type broadcast pattern has " ++ toString error.pattern ++ " entries for rank " ++
    toString error.rank

namespace TensorType

/-- A type that may stretch exactly on the axes known to have length one. -/
def ofLengths (elem : ElemType) (shape : List (Option Nat)) : TensorType :=
  ⟨elem, shape, shape.map (· == some 1)⟩

/-- A type with all lengths known. -/
def fixed (elem : ElemType) (shape : List Nat) : TensorType := ofLengths elem (shape.map some)

/-- A type of which only the rank is known. -/
def dynamic (elem : ElemType) (rank : Nat) : TensorType :=
  ofLengths elem (List.replicate rank none)

/-- The same type with another broadcast pattern. -/
def withPattern (t : TensorType) (pattern : List Bool) : Except PatternError TensorType :=
  if pattern.length ≠ t.shape.length then .error ⟨pattern.length, t.shape.length⟩
  else .ok { t with broadcastable := pattern }

/-- The number of axes. -/
def rank (t : TensorType) : Nat := t.shape.length

/-- All lengths, when all are known. -/
def staticShape? (t : TensorType) : Option (List Nat) := t.shape.mapM id

end TensorType

/-- The operators on arrays. An absent list of axes means all axes. -/
inductive Op where
  | elementwise (operator : Operator) (reuse : ReuseMap)
  | reduce (operator : Operator) (axes : Option (List Int)) (accumulator : Option ElemType)
  | sum (axes : Option (List Int)) (accumulator : Option ElemType)
  | shuffle (shuffle : Shuffle)
  | softmax (axis : Option Int)
  | logSoftmax (axis : Option Int)
  | softmaxGrad (axis : Option Int)
  | argmax (axes : Option (List Nat))
deriving Repr

/-- The name of an operator's kind. -/
def Op.kind : Op → String
  | elementwise .. => "elemwise"
  | reduce .. => "careduce"
  | sum .. => "sum"
  | shuffle .. => "dimshuffle"
  | softmax .. => "softmax"
  | logSoftmax .. => "log_softmax"
  | softmaxGrad .. => "softmax_grad"
  | argmax .. => "argmax"

/-- An operator with the types of its inputs and outputs. -/
structure Node where
  op : Op
  inputs : List TensorType
  outputs : List TensorType
deriving Repr

end LoopKernels
