import LoopKernels.Tensor.Rearrange

/-!
# Computing on arrays

Element by element: a conversion, a function of one array, and a function of two
arrays that are broadcast together. Results are cast to the element type of the
result. A conversion to the element type an array already has leaves it as it is,
elements outside the range of that type included.
-/

namespace LoopKernels

/-- The common shape of several shapes. -/
def Shape.broadcast (shapes : List Shape) : Except TensorError Shape :=
  match Shape.broadcast? shapes with
  | some shape => .ok shape
  | none => .error (.broadcast shapes)

namespace Tensor

/-- An array of the given scalars in an existing shape, each cast to the element type. -/
def withScalars (elem : ElemType) (shape : Shape) (values : List Scalar) : Tensor :=
  ⟨elem, shape, .collect elem.family (values.map (·.cast elem))⟩

/-- The elements converted to an element type. -/
def convert (t : Tensor) (elem : ElemType) : Tensor :=
  if elem = t.elem then t else withScalars elem t.shape t.toList

/-- A function of each element. -/
def map (t : Tensor) (elem : ElemType) (f : Scalar → Scalar) : Tensor :=
  withScalars elem t.shape (t.toList.map f)

/-- A function of two elements, zero where one of them is missing. -/
def pair (f : Scalar → Scalar → Scalar) : Option Scalar → Option Scalar → Scalar
  | some a, some b => f a b
  | _, _ => .int 0

/-- A function of the elements of two arrays at each coordinate of their common shape. -/
def zipWith (a b : Tensor) (elem : ElemType) (f : Scalar → Scalar → Scalar) :
    Except TensorError Tensor := do
  let shape ← Shape.broadcast [a.shape, b.shape]
  let left ← a.stretchStrides shape
  let right ← b.stretchStrides shape
  let coords ← shape.walk
  let values := coords.map fun coord =>
    pair f (a.flat? (Shape.offset coord left)) (b.flat? (Shape.offset coord right))
  pure (withScalars elem shape values)

end Tensor

end LoopKernels
