import LoopKernels.Kernel.Basic

/-!
# Functions applied along an axis

The axis is moved last, so that its elements are consecutive. A function of one
lane is applied at every coordinate of the remaining axes, in row-major order;
the first failure is the result.
-/

namespace LoopKernels

/-- A function from the elements along an axis to a scalar. -/
abbrev LaneFunction := Tensor → Except KernelError Scalar

/-- A function to be applied along an axis of arrays of one rank. -/
structure AxisApply where
  name : String
  functionName : String
  function : LaneFunction
  axis : Nat
  rank : Nat
  elem : ElemType

namespace AxisApply

/-- The application of a function along an axis. -/
def build (functionName : String) (function : LaneFunction) (axis : Int) (rank : Nat)
    (elem : ElemType) : Except KernelError AxisApply := do
  let resolved ← KernelError.ofAxis (Axis.resolve rank axis)
  pure ⟨"axis_apply_" ++ functionName, functionName, function, resolved, rank, elem⟩

/-- The axes in order, the axis of the lanes last. -/
def order (a : AxisApply) : List Nat := Axis.others a.rank [a.axis] ++ [a.axis]

/-- Calls a function on every lane of an array, which must have the declared rank. The calls may
    do more than give a scalar or fail. -/
def applyWith {m : Type → Type} [Monad m] [MonadLiftT (Except KernelError) m] (a : AxisApply)
    (call : Tensor → m Scalar) (t : Tensor) : m Tensor :=
  if t.rank ≠ a.rank then liftM (Except.error (KernelError.inputRank a.name a.rank t.shape))
  else do
    let moved ← liftM (KernelError.ofTensor (t.transpose a.order))
    let shape := moved.shape.take (a.rank - 1)
    let length := moved.shape.getD (a.rank - 1) 0
    let count ← liftM (KernelError.ofTensor (Shape.elementCount shape))
    let values ← (List.range count).mapM fun place => do
      let lane ← liftM (KernelError.ofTensor (moved.lane (place * length) length))
      call lane
    liftM (KernelError.ofTensor (Tensor.ofScalars a.elem shape values))

/-- Applies the function to every lane of an array. -/
def apply (a : AxisApply) (t : Tensor) : Except KernelError Tensor := a.applyWith a.function t

/-- The lines of the listing; the name of the function stands in them as it was given. -/
def lines (a : AxisApply) : Listing :=
  let order := Listing.commas (a.order.map toString)
  Listing.function (a.name ++ "(x)")
    ([⟨0, "x_reaxis = transpose(x, (" ++ order ++ "));"⟩,
      ⟨0, "res = zeros(x_reaxis.shape[:-1], " ++ a.elem.name ++ ");"⟩] ++
      Listing.loops [("m", "size(res)")]
        [⟨0, "res[m] = " ++ a.functionName ++ "(x_reaxis[m]);"⟩] ++
      [⟨0, "return res;"⟩])

/-- The text of the kernel, as one block. -/
def listing (a : AxisApply) : Listing := a.lines.reflow

/-- The fields that show. -/
def inspect (a : AxisApply) : String :=
  "AxisApply \x7b name: " ++ Inspect.quoted a.name ++ ", fn_name: " ++
    Inspect.quoted a.functionName ++ ", axis: " ++ toString a.axis ++ ", ndim: " ++
    toString a.rank ++ ", dtype: " ++ a.elem.title ++ " \x7d"

/-- The kernel that applies a function along an axis. -/
def definition (a : AxisApply) : Definition where
  name := a.name
  label := "loop.axis_apply"
  listing := a.listing
  run _ inputs := do
    let t ← oneArgument a.name inputs
    let applied ← a.apply t
    pure (.tensor applied)

end AxisApply

end LoopKernels
