import LoopKernels.Tensor.Combine

/-!
# Results of kernels

A kernel gives an array, or a plain scalar together with its element type.
-/

namespace LoopKernels

/-- What a kernel takes and returns. -/
inductive Value where
  | tensor (t : Tensor)
  | scalar (value : Scalar) (elem : ElemType)
deriving DecidableEq, Repr

namespace Value

/-- The element type of a value. -/
def elem : Value → ElemType
  | tensor t => t.elem
  | scalar _ elem => elem

/-- The lengths of a value; a scalar has no axes. -/
def shape : Value → Shape
  | tensor t => t.shape
  | scalar _ _ => []

/-- The value is a plain scalar. -/
def isScalar : Value → Bool
  | tensor _ => false
  | scalar _ _ => true

/-- The array that a value is. -/
def tensor? : Value → Option Tensor
  | tensor t => some t
  | scalar _ _ => none

/-- A plain scalar becomes an array without axes. -/
def toTensor : Value → Tensor
  | tensor t => t
  | scalar value elem => Tensor.single value elem

/-- The value converted to an element type. -/
def convert (target : ElemType) : Value → Value
  | tensor t => tensor (t.convert target)
  | scalar value _ => scalar (value.cast target) target

end Value

end LoopKernels
