import LoopKernels.Kernel.Basic
import LoopKernels.Reduction.Update
import LoopKernels.Scalar.Text

/-!
# Reductions of one axis

Every output element starts as the seed and is updated with the elements along
the reduced axis, in increasing order. The axis is then removed, or kept with
length one. The reduction of an array with one axis may also be given as a plain
scalar.
-/

namespace LoopKernels

/-- Reads of the elements of one array, whose strides are found once. -/
structure Loader where
  tensor : Tensor
  strides : List Nat
  /-- Coordinates are compared with the shape. -/
  checked : Bool

namespace Loader

/-- The reads of an array. -/
def start (t : Tensor) (checked : Bool) : Except KernelError Loader := do
  let strides ← KernelError.ofTensor t.strides
  pure ⟨t, strides, checked⟩

/-- The element at a coordinate. Checked reads compare the coordinate with the shape;
    unchecked ones only need the position to exist. -/
def load (l : Loader) (coord : Coord) : Except KernelError Scalar :=
  if l.checked then KernelError.ofTensor (l.tensor.get coord)
  else
    match l.tensor.flat? (Shape.offset coord l.strides) with
    | some value => .ok value
    | none => .error (.loadPastEnd (Shape.offset coord l.strides) l.tensor.shape)

end Loader

/-- A reduction of one axis of an array. -/
structure AxisReducer where
  name : String
  /-- The name of the operator that reduces. -/
  operator : String
  update : Update
  seed : Scalar
  axis : Nat
  rank : Nat
  elem : ElemType
  /-- The reduced axis stays, with length one. -/
  keepDims : Bool
  /-- An array with one axis is reduced to a plain scalar. -/
  returnScalar : Bool
deriving DecidableEq, Repr

namespace AxisReducer

/-- The reduction of an axis by an operator. -/
def build (op : Operator) (seed : Scalar) (axis : Int) (rank : Nat) (elem : ElemType)
    (keepDims returnScalar : Bool) : Except KernelError AxisReducer := do
  let resolved ← KernelError.ofAxis (Axis.resolve rank axis)
  let update ← Update.ofOperator op elem
  pure ⟨"careduce_" ++ op.name ++ "_axis" ++ toString resolved, op.name, update, seed.seed elem,
    resolved, rank, elem, keepDims, returnScalar⟩

/-- The accumulator after one more element of a lane, the one at the given index. -/
def advance (r : AxisReducer) (l : Loader) (rest : Coord) (acc : Scalar) (index : Nat) :
    Except KernelError Scalar := do
  let value ← l.load (rest.insertIdx r.axis index)
  pure (r.update.apply r.elem acc value index)

/-- The reduced element at a coordinate of the other axes. -/
def reduceLane (r : AxisReducer) (l : Loader) (rest : Coord) : Except KernelError Scalar :=
  (List.range (l.tensor.shape.getD r.axis 0)).foldlM (r.advance l rest) r.seed

/-- The result after one more output position, given with its coordinate. -/
def fill (r : AxisReducer) (l : Loader) (result : Tensor) (place : Coord × Nat) :
    Except KernelError Tensor := do
  let value ← r.reduceLane l place.1
  KernelError.ofTensor (result.setFlat place.2 value)

/-- The reduction of an array with several axes. The result is filled position by position. -/
def reduceMany (r : AxisReducer) (l : Loader) : Except KernelError Tensor := do
  let shape := l.tensor.shape.eraseIdx r.axis
  let blank ← KernelError.ofTensor (Tensor.full shape r.seed r.elem)
  let reduced ← (Shape.coordinates shape).zipIdx.foldlM (r.fill l) blank
  if r.keepDims then KernelError.ofTensor (reduced.expandDims r.axis) else pure reduced

/-- The reduction of an array with one axis. -/
def reduceOne (r : AxisReducer) (l : Loader) : Except KernelError Value := do
  let value ← r.reduceLane l []
  if r.keepDims then do
    let kept ← KernelError.ofTensor (Tensor.full [1] value r.elem)
    pure (.tensor kept)
  else if r.returnScalar then pure (.scalar value r.elem)
  else pure (.tensor (Tensor.single value r.elem))

/-- Reduces an array, which must have the declared rank. -/
def reduce (r : AxisReducer) (t : Tensor) (checked : Bool) : Except KernelError Value :=
  if t.rank ≠ r.rank then .error (.inputRank r.name r.rank t.shape)
  else do
    let l ← Loader.start t checked
    if 1 < r.rank then do
      let reduced ← r.reduceMany l
      pure (.tensor reduced)
    else r.reduceOne l

/-- The output indices of the listing. -/
def outputIndices (r : AxisReducer) : List String :=
  (List.range (r.rank - 1)).map fun k => "o" ++ toString k

/-- The loop over the reduced axis. -/
def axisLoop (slot value : String) (u : Update) : Listing :=
  Listing.loops [(Update.counter, "axis_shape")] (u.lines slot value)

/-- The body of the listing for an array with several axes. -/
def bodyMany (r : AxisReducer) : Listing :=
  let lengths := (Axis.others r.rank [r.axis]).map fun axis => "x.shape[" ++ toString axis ++ "]"
  let outer := (List.range (r.rank - 1)).map fun k =>
    ("o" ++ toString k, "res_shape[" ++ toString k ++ "]")
  let slot := "res[" ++ Listing.commas r.outputIndices ++ "]"
  let value := Listing.element "x" (r.outputIndices.insertIdx r.axis Update.counter)
  [⟨0, "res_shape = " ++ Listing.tuple lengths ++ ";"⟩,
    ⟨0, "res = full(res_shape, " ++ r.seed.literal r.elem ++ ", " ++ r.elem.name ++ ");"⟩,
    ⟨0, "axis_shape = x.shape[" ++ toString r.axis ++ "];"⟩] ++
    Listing.loops outer (axisLoop slot value r.update) ++
    [⟨0, "return " ++
      (if r.keepDims then "expand_dims(res, " ++ toString r.axis ++ ")" else "res") ++ ";"⟩]

/-- The body of the listing for an array with one axis. -/
def bodyOne (r : AxisReducer) : Listing :=
  [⟨0, "res = full((1,), " ++ r.seed.literal r.elem ++ ", " ++ r.elem.name ++ ");"⟩,
    ⟨0, "axis_shape = x.shape[" ++ toString r.axis ++ "];"⟩] ++
    axisLoop "res[0]" (Listing.element "x" [Update.counter]) r.update ++
    [⟨0, "return " ++
      (if r.keepDims then "res"
        else if r.returnScalar then "res.item()"
        else "asarray(res.item())") ++ ";"⟩]

/-- The text of the kernel. -/
def listing (r : AxisReducer) : Listing :=
  Listing.function (r.name ++ "(x)") (if 1 < r.rank then r.bodyMany else r.bodyOne)

/-- The kernel that reduces along one axis. -/
def definition (r : AxisReducer) : Definition where
  name := r.name
  label := "loop.reduce_axis"
  listing := r.listing
  run options inputs := do
    let t ← oneArgument r.name inputs
    r.reduce t options.boundscheck

/-- The reducer compiled as a step of another kernel. -/
def stepKernel (r : AxisReducer) (config : Config) : Kernel :=
  ⟨r.definition, none, Options.step config⟩

end AxisReducer

end LoopKernels
