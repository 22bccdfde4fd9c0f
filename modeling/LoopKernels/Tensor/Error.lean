import LoopKernels.Element
import LoopKernels.Shape.Basic
import LoopKernels.Text.Inspect

/-!
# Errors of array operations

One constructor per cause, and one function that words them.
-/

namespace LoopKernels

/-- What can go wrong when an array is built or rearranged. -/
inductive TensorError where
  | lengthMismatch (length : Nat) (shape : Shape)
  | family (e : ElemType)
  | reshape (source target : Shape)
  | broadcast (shapes : List Shape)
  | axis (number : Int) (rank : Nat)
  | permutation (order : List Nat) (rank : Nat)
  | notScalar (shape : Shape)
  | index (coord : List Nat) (shape : Shape)
  /-- An element is read behind the last one. -/
  | pastEnd (position size : Nat)
  /-- A count or a stride is no machine word. -/
  | overflow
deriving DecidableEq, Repr

/-- The text of an array error. -/
def TensorError.message : TensorError → String
  | lengthMismatch length shape =>
    "array data length (" ++ toString length ++ ") does not match shape " ++ Inspect.nats shape
  | family e => "array storage does not match dtype " ++ e.name
  | reshape source target =>
    "cannot reshape array of shape " ++ Inspect.nats source ++ " into shape " ++
      Inspect.nats target
  | broadcast shapes =>
    "shapes " ++ Inspect.list Inspect.nats shapes ++ " cannot be broadcast together"
  | axis number rank =>
    "axis " ++ toString number ++ " is out of bounds for array of dimension " ++ toString rank
  | permutation order rank =>
    Inspect.nats order ++ " is not a permutation of " ++ toString rank ++ " axes"
  | notScalar shape =>
    "array of shape " ++ Inspect.nats shape ++ " cannot be converted to a scalar"
  | index coord shape =>
    "index " ++ Inspect.nats coord ++ " is out of bounds for shape " ++ Inspect.nats shape
  | pastEnd position size =>
    "position " ++ toString position ++ " is behind the last of " ++ toString size ++ " elements"
  | overflow => "attempt to multiply with overflow"

/-- A count or strides formed in machine words. -/
def TensorError.ofWords {α : Type} : Option α → Except TensorError α
  | some result => .ok result
  | none => .error overflow

end LoopKernels
