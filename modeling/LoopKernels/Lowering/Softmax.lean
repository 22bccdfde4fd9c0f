import LoopKernels.Reduction.Axis

/-!
# Softmax

The exponentials of the elements divided by their sum, its logarithm, and its
gradient, along one axis or over the whole array. The greatest element is
subtracted first. Along an axis, the maximum and the sum keep the axis with length
one, so that they stretch against the input.
-/

namespace LoopKernels.Lowering

/-- A reduction along one axis or of the whole array. -/
inductive Aggregate where
  | axis (kernel : Kernel)
  | whole (update : Update) (seed : Scalar) (elem : ElemType)

namespace Aggregate

/-- The reduction by an operator along an axis, or of the whole array without one. -/
def build (op : Operator) (neutral : Float) (axis : Option Nat) (rank : Nat) (elem : ElemType)
    (config : Config) : Except KernelError Aggregate :=
  match axis with
  | some number => do
    let reducer ← AxisReducer.build op (.float neutral) number rank elem true false
    pure (.axis (reducer.stepKernel config))
  | none => do
    let update ← Update.ofOperator op elem
    pure (.whole update ((Scalar.float neutral).seed elem) elem)

/-- How the reduction is called in a listing. -/
def callName (wholeName : String) : Aggregate → String
  | axis kernel => kernel.name
  | whole .. => wholeName

/-- The listing of the kernel that reduces, if there is one. -/
def listing : Aggregate → Listing
  | axis kernel => kernel.listing ++ [Line.blank]
  | whole .. => []

/-- What building the aggregate reported. -/
def events : Aggregate → List Event
  | axis kernel => kernel.events
  | whole .. => []

/-- The aggregate of an array, along its axis or over all of it. -/
def apply (t : Tensor) : Aggregate → Except KernelError Tensor
  | axis kernel => kernel.callTensor [t]
  | whole update seed elem => .ok (Tensor.single (update.fold elem seed t.toList) elem)

end Aggregate

/-- The rule at every coordinate of two arrays. -/
def combine (rule : Rule) (elem : ElemType) (a b : Tensor) : Except KernelError Tensor :=
  KernelError.ofTensor (a.zipWith b elem (rule.apply elem))

/-- The quotient at every coordinate of two arrays. -/
def quotient (elem : ElemType) (a b : Tensor) : Except KernelError Tensor :=
  KernelError.ofTensor (a.zipWith b elem fun x y => .float (x.toFloat / y.toFloat))

/-- The exponential of every entry, at an element type. -/
def exponential (elem : ElemType) (t : Tensor) : Tensor :=
  t.map elem fun x => .float x.toFloat.exp

/-- The logarithm of every entry, at an element type. -/
def logarithm (elem : ElemType) (t : Tensor) : Tensor :=
  t.map elem fun x => .float x.toFloat.log

/-- A softmax, or its logarithm. -/
structure Softmax where
  isLog : Bool
  greatest : Aggregate
  total : Aggregate
  input : ElemType
  output : ElemType

namespace Softmax

/-- The name of the function, plain or logarithmic. -/
def name (s : Softmax) : String := if s.isLog then "log_softmax" else "softmax"

/-- The elements less the greatest. -/
def centred (s : Softmax) (t : Tensor) : Except KernelError Tensor := do
  let greatest ← s.greatest.apply t
  combine .sub s.input t greatest

/-- Exponentials divided by their sum. -/
def ratio (s : Softmax) (t : Tensor) : Except KernelError Tensor := do
  let centred ← s.centred t
  let powers := exponential s.output centred
  let total ← s.total.apply powers
  quotient s.output powers total

/-- The logarithm of the ratio. -/
def logRatio (s : Softmax) (t : Tensor) : Except KernelError Tensor := do
  let centred ← s.centred t
  let total ← s.total.apply (exponential s.output centred)
  combine .sub s.output centred (logarithm s.output total)

/-- The softmax of an array, in the order of steps of its kind. -/
def run (s : Softmax) (t : Tensor) : Except KernelError Tensor :=
  if s.isLog then s.logRatio t else s.ratio t

/-- The statements of the kernel, plain or logarithmic. -/
def body (s : Softmax) : Listing :=
  let greatest := s.greatest.callName "max"
  let total := s.total.callName "sum"
  if s.isLog then
    [⟨0, "xdev = x - " ++ greatest ++ "(x);"⟩,
      ⟨0, "lsm = xdev - log(" ++ total ++ "(exp(xdev)));"⟩, ⟨0, "return lsm;"⟩]
  else
    [⟨0, "z = " ++ greatest ++ "(x);"⟩, ⟨0, "e_x = exp(x - z);"⟩,
      ⟨0, "w = " ++ total ++ "(e_x);"⟩, ⟨0, "sm = e_x / w;"⟩, ⟨0, "return sm;"⟩]

/-- The kernel of a softmax: its two aggregates and the function that uses them. -/
def definition (s : Softmax) : Definition where
  name := s.name
  label := "loop." ++ s.name
  listing := s.greatest.listing ++ s.total.listing ++ Listing.function (s.name ++ "(x)") s.body
  run _ inputs := do
    let t ← oneArgument s.name inputs
    let result ← s.run t
    pure (.tensor result)
  preparation := s.greatest.events ++ s.total.events

end Softmax

/-- The gradient of a softmax from that of its result. -/
structure SoftmaxGradient where
  total : Aggregate
  output : ElemType

namespace SoftmaxGradient

/-- With p the product of both inputs: p less the softmax times the sum of p. -/
def run (g : SoftmaxGradient) (slope softmax : Tensor) : Except KernelError Tensor := do
  let product ← combine .mul g.output slope softmax
  let total ← g.total.apply product
  let scaled ← combine .mul g.output total softmax
  combine .sub g.output product scaled

/-- The statements of the kernel of the gradient. -/
def body (g : SoftmaxGradient) : Listing :=
  [⟨0, "dy_times_sm = dy * sm;"⟩,
    ⟨0, "sum_dy_times_sm = " ++ g.total.callName "sum" ++ "(dy_times_sm);"⟩,
    ⟨0, "dx = dy_times_sm - sum_dy_times_sm * sm;"⟩, ⟨0, "return dx;"⟩]

/-- The kernel of the gradient: its aggregate and the function that uses it. -/
def definition (g : SoftmaxGradient) : Definition where
  name := "softmax_grad"
  label := "loop.softmax_grad"
  listing := g.total.listing ++ Listing.function "softmax_grad(dy, sm)" g.body
  run _ inputs := do
    let (slope, softmax) ← twoArguments "softmax_grad" inputs
    let result ← g.run slope softmax
    pure (.tensor result)
  preparation := g.total.events

end SoftmaxGradient

/-- The axis a node names, if it names one. -/
def resolveAxis (axis : Option Int) (rank : Nat) : Except KernelError (Option Nat) :=
  match axis with
  | some number => do
    let resolved ← KernelError.ofAxis (Axis.resolve rank number)
    pure (some resolved)
  | none => .ok none

/-- The softmax of a node, or its logarithm. -/
def softmax (node : Node) (isLog : Bool) (axis : Option Int) (config : Config) :
    Except KernelError Kernel := do
  let op := if isLog then "LogSoftmax" else "Softmax"
  let input ← node.onlyInput op
  let output ← node.onlyOutput op
  let resolved ← resolveAxis axis input.rank
  let greatest ← Aggregate.build (.prim .maximum) (-1 / 0) resolved input.rank input.elem config
  let total ← Aggregate.build (.prim .add) 0 resolved input.rank output.elem config
  let kernel : Softmax := ⟨isLog, greatest, total, input.elem, output.elem⟩
  Kernel.compileReduction node kernel.definition false true config

/-- The gradient of a softmax; its kernel has no signature. -/
def softmaxGradient (node : Node) (axis : Option Int) (config : Config) :
    Except KernelError Kernel :=
  match node.inputs with
  | [_, input] => do
    let output ← node.onlyOutput "SoftmaxGrad"
    let resolved ← resolveAxis axis input.rank
    let total ← Aggregate.build (.prim .add) 0 resolved input.rank output.elem config
    let kernel : SoftmaxGradient := ⟨total, output.elem⟩
    Kernel.compileReduction node kernel.definition false false config
  | inputs => .error (.gradientInputs inputs.length)

end LoopKernels.Lowering
