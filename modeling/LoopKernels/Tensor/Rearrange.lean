import LoopKernels.Tensor.Basic
import LoopKernels.Shape.Broadcast

/-!
# Rearranging arrays

Operations that move elements without changing them. Transposing and stretching
read the elements through strides in the order of the new shape; reshaping keeps
the order of the elements; a lane is a run of consecutive elements. An array that
keeps its shape is given back as it is, without a look at its strides.
-/

namespace LoopKernels.Tensor

/-- The entries of a list at the given places. -/
def pick (xs : List Nat) (places : List Nat) : List Nat := places.map fun place => xs.getD place 0

/-- An array of the given shape whose elements are read through strides. -/
def through (t : Tensor) (shape : Shape) (strides : List Nat) : Except TensorError Tensor := do
  let coords ← shape.walk
  let cells ← t.cells.gather (coords.map fun coord => Shape.offset coord strides)
  pure ⟨t.elem, shape, cells⟩

/-- Every listed axis exists and is listed for the first time; the flags tell which axes
    were seen before. -/
def eachNew : List Bool → List Nat → Bool
  | _, [] => true
  | seen, axis :: rest =>
    if seen.length ≤ axis ∨ seen.getD axis false then false else eachNew (seen.set axis true) rest

/-- The axes stand in order. -/
def inOrder (order : List Nat) : Bool := order == List.range order.length

/-- Permutes the axes: axis i of the result is the i-th listed axis. -/
def transpose (t : Tensor) (order : List Nat) : Except TensorError Tensor :=
  if ¬eachNew (List.replicate t.rank false) order ∨ order.length ≠ t.rank then
    .error (.permutation order t.rank)
  else if inOrder order then .ok t
  else do
    let strides ← t.strides
    t.through (pick t.shape order) (pick strides order)

/-- Another shape for the same elements in the same order. -/
def reshape (t : Tensor) (shape : Shape) : Except TensorError Tensor := do
  let count ← shape.elementCount
  if count ≠ t.size then .error (.reshape t.shape shape)
  else pure { t with shape }

/-- An axis number as a signed word shows it. -/
def signedAxis (axis : Nat) : Int := (Int64.ofNat axis).toInt

/-- Inserts an axis of length one. -/
def expandDims (t : Tensor) (axis : Nat) : Except TensorError Tensor :=
  if t.rank < axis then .error (.axis (signedAxis axis) t.rank)
  else t.reshape (t.shape.take axis ++ 1 :: t.shape.drop axis)

/-- Strides that read the array as if it had the target shape: zero on the axes that
    stretch or are added in front. -/
def stretchStrides (t : Tensor) (target : Shape) : Except TensorError (List Nat) :=
  if target.length < t.rank then .error (.broadcast [t.shape, target])
  else do
    let strides ← t.strides
    let lead := target.length - t.rank
    match Shape.stretchAxes? t.shape strides (target.drop lead) with
    | some stretched => pure (List.replicate lead 0 ++ stretched)
    | none => .error (.broadcast [t.shape, target])

/-- The array stretched to a shape; to its own shape, the array as it is. -/
def broadcastTo (t : Tensor) (target : Shape) : Except TensorError Tensor :=
  if target = t.shape then .ok t
  else do
    let strides ← t.stretchStrides target
    t.through target strides

/-- Consecutive elements as an array with one axis. -/
def lane (t : Tensor) (start length : Nat) : Except TensorError Tensor :=
  if length ≠ 0 ∧ t.size < start + length then .error (.pastEnd (max start t.size) t.size)
  else do
    let cells ← t.cells.gather (List.range' start length)
    pure ⟨t.elem, [length], cells⟩

end LoopKernels.Tensor
