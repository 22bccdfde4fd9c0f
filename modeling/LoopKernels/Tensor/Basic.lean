import LoopKernels.Tensor.Cells
import LoopKernels.Shape.Odometer

/-!
# Arrays

An array has an element type, a shape, and its elements in row-major order.
Constructors that take storage as it is check that its family and its size fit;
they do not wrap the elements, so an array may hold values outside the range of
its element type. Constructors that take scalars cast each of them.

`Valid` states what every array keeps: storage of the family of its element type,
with as many cells as the shape has coordinates, and a word counts them. `InRange` states the
further property that the elements of a truth-value or integer array lie within the
bounds of its element type.
-/

namespace LoopKernels

/-- An array: its element type, its lengths and its cells in row-major order. -/
structure Tensor where
  elem : ElemType
  shape : Shape
  cells : Cells
deriving DecidableEq, Repr

/-- The scalar lies within the bounds of an element type. -/
def Scalar.inBounds (s : Scalar) (e : ElemType) : Bool :=
  match s.integer?, e.bounds with
  | some n, some (least, greatest) => least ≤ n && n ≤ greatest
  | _, none => true
  | none, some _ => false

/-- The number of elements that a shape declares. -/
def Shape.elementCount (shape : Shape) : Except TensorError Nat := TensorError.ofWords shape.count?

/-- The coordinates of an array that is filled element by element, without a count beforehand. An
    array holds no more elements than a word can count. -/
def Shape.walk (shape : Shape) : Except TensorError (List Coord) :=
  if shape.count < Word.limit then .ok shape.coordinates else .error .overflow

namespace Tensor

/-- Storage fits the element type and the shape. -/
def Valid (t : Tensor) : Prop :=
  t.cells.family = t.elem.family ∧ t.cells.size = t.shape.count ∧ t.shape.count < Word.limit

instance (t : Tensor) : Decidable t.Valid := inferInstanceAs (Decidable (_ ∧ _ ∧ _))

/-- Elements lie within the bounds of the element type, if it has any. -/
def InRange (t : Tensor) : Prop := ∀ s ∈ t.cells.toList, s.inBounds t.elem = true

instance (t : Tensor) : Decidable t.InRange :=
  inferInstanceAs (Decidable (∀ s ∈ t.cells.toList, s.inBounds t.elem = true))

/-- Wraps storage; the family is checked before the size. -/
def ofCells (elem : ElemType) (shape : Shape) (cells : Cells) : Except TensorError Tensor :=
  if cells.family ≠ elem.family then .error (.family elem)
  else do
    let count ← shape.elementCount
    if cells.size ≠ count then .error (.lengthMismatch cells.size shape)
    else pure ⟨elem, shape, cells⟩

/-- Casts the scalars to the element type. -/
def ofScalars (elem : ElemType) (shape : Shape) (values : List Scalar) :
    Except TensorError Tensor :=
  ofCells elem shape (.collect elem.family (values.map (·.cast elem)))

/-- An array of doubles. -/
def ofFloats (shape : Shape) (values : List Float) : Except TensorError Tensor :=
  ofCells .f64 shape (.float values.toArray)

/-- An array of single-precision numbers, each rounded from a double. -/
def ofSingles (shape : Shape) (values : List Float) : Except TensorError Tensor :=
  ofCells .f32 shape (.float (values.map toSingle).toArray)

/-- An array of signed 64-bit integers. -/
def ofInt64s (shape : Shape) (values : List Int64) : Except TensorError Tensor :=
  ofCells .i64 shape (.signed values.toArray)

/-- An array of signed 32-bit integers. -/
def ofInt32s (shape : Shape) (values : List Int32) : Except TensorError Tensor :=
  ofCells .i32 shape (.signed (values.map Int32.toInt64).toArray)

/-- An array of truth values. -/
def ofBools (shape : Shape) (values : List Bool) : Except TensorError Tensor :=
  ofCells .bool shape (.bool values.toArray)

/-- An array that holds one value everywhere. -/
def full (shape : Shape) (value : Scalar) (elem : ElemType) : Except TensorError Tensor := do
  let count ← shape.elementCount
  pure ⟨elem, shape, .filled elem.family count (value.cast elem)⟩

/-- An array of zeros. -/
def zeros (shape : Shape) (elem : ElemType) : Except TensorError Tensor := full shape (.int 0) elem

/-- An array without axes; its only element is the value. -/
def single (value : Scalar) (elem : ElemType) : Tensor :=
  ⟨elem, [], .filled elem.family 1 (value.cast elem)⟩

/-- The number of axes. -/
def rank (t : Tensor) : Nat := t.shape.length

/-- The number of elements held. -/
def size (t : Tensor) : Nat := t.cells.size

/-- The strides of the shape. -/
def strides (t : Tensor) : Except TensorError (List Nat) :=
  TensorError.ofWords (Shape.strides? t.shape)

/-- The elements in row-major order. -/
def toList (t : Tensor) : List Scalar := t.cells.toList

/-- The element at a position. -/
def flat? (t : Tensor) (position : Nat) : Option Scalar := t.cells.get? position

/-- Writes a scalar, cast to the element type, at a position. -/
def setFlat (t : Tensor) (position : Nat) (value : Scalar) : Except TensorError Tensor :=
  match t.cells.set? position (value.cast t.elem) with
  | some cells => .ok { t with cells }
  | none => .error (.index [position] t.shape)

/-- Writes values over the elements of an array from a position on. -/
def overwrite (t : Tensor) : Nat → List Scalar → Except TensorError Tensor
  | _, [] => .ok t
  | position, value :: rest => do
    let written ← t.setFlat position value
    overwrite written (position + 1) rest

/-- The position of a coordinate, which must lie inside the shape. -/
def position (t : Tensor) (coord : Coord) : Except TensorError Nat :=
  if Shape.contains t.shape coord then do
    let strides ← t.strides
    pure (Shape.offset coord strides)
  else .error (.index coord t.shape)

/-- The element at a coordinate. -/
def get (t : Tensor) (coord : Coord) : Except TensorError Scalar := do
  let position ← t.position coord
  match t.flat? position with
  | some value => .ok value
  | none => .error (.index coord t.shape)

/-- The only element of an array that has one. -/
def item (t : Tensor) : Except TensorError Scalar :=
  match t.toList with
  | [value] => .ok value
  | _ => .error (.notScalar t.shape)

/-- Same element type, same shape and equal elements; a NaN equals nothing. -/
def equals (a b : Tensor) : Bool :=
  a.elem == b.elem && a.shape == b.shape && a.cells.equals b.cells

end Tensor

end LoopKernels
