import LoopKernels.Reduction.Axes

/-!
# Reductions and sums

A reduction folds the listed axes, or all of them, by an operator that has a
neutral element. A sum over some of the axes is the reduction by addition; a sum
over all axes or over none needs no loops over single axes.
-/

namespace LoopKernels.Lowering

/-- The reduction of a node's axes by an operator. The neutral element is brought
    into the accumulator's type first; the loops run in the type of the output. -/
def reduce (node : Node) (op : Operator) (axes : Option (List Int))
    (accumulator : Option ElemType) (config : Config) : Except KernelError Kernel := do
  let input ← node.onlyInput "CAReduce"
  let output ← node.onlyOutput "CAReduce"
  match op.neutral with
  | none => throw (.noNeutral op.name)
  | some neutral =>
    let seed := (Scalar.float neutral).seed (accumulator.getD output.elem)
    let listed := axes.getD ((Axis.every input.rank).map Int.ofNat)
    let reducer ← Reducer.build op seed listed input.rank output.elem "x" false config
    Kernel.compileReduction node reducer.definition false true config

/-- Sums that need no loops over single axes. -/
inductive SumShortcut where
  /-- All elements are added in one type, then converted to the accumulator's
      type and to that of the output. -/
  | total (sum accumulator output : ElemType)
  /-- Nothing is added: a converted copy. -/
  | copy (output : ElemType)
deriving DecidableEq, Repr

namespace SumShortcut

/-- The type in which all elements of an array are added. -/
def sumType (e : ElemType) : ElemType :=
  match e.family with
  | .bool | .signed => .i64
  | .unsigned => .u64
  | .float => e

/-- The name of the function that takes the place of a reduction. -/
def name : SumShortcut → String
  | total .. => "impl_sum_all"
  | copy .. => "impl_sum_copy"

/-- The statement of the listing. -/
def statement : SumShortcut → String
  | total sum accumulator output =>
    "return asarray(sum(array, " ++ sum.name ++ "), " ++ accumulator.name ++ ").astype(" ++
      output.name ++ ");"
  | copy output => "return asarray(array, " ++ output.name ++ ");"

/-- The sum of all entries, or a copy where no axis is summed. -/
def run (t : Tensor) : SumShortcut → Tensor
  | total sum accumulator output =>
    let value := Update.add.fold sum ((Scalar.int 0).cast sum) t.toList
    Tensor.single ((value.cast accumulator).cast output) output
  | copy output => t.convert output

/-- The kernel of a sum that needs no reducer. -/
def definition (s : SumShortcut) : Definition where
  name := s.name
  label := "loop.sum"
  listing := Listing.function (s.name ++ "(array)") [⟨0, s.statement⟩]
  run _ inputs := do
    let t ← oneArgument s.name inputs
    pure (.tensor (s.run t))

end SumShortcut

/-- The distinct axes that a node reduces. -/
def reducedAxes (axes : Option (List Int)) (rank : Nat) : Except KernelError (List Nat) :=
  match axes with
  | some listed => KernelError.ofAxis (Axis.resolveAll rank listed)
  | none => .ok (Axis.every rank)

/-- The sum over the listed axes, or over all of them. -/
def sum (node : Node) (axes : Option (List Int)) (accumulator : Option ElemType)
    (config : Config) : Except KernelError Kernel := do
  let input ← node.onlyInput "Sum"
  let output ← node.onlyOutput "Sum"
  let reduced ← reducedAxes axes input.rank
  let options := { Options.ofConfig config with fastmath := true }
  if reduced.length = input.rank then
    let shortcut := SumShortcut.total (SumShortcut.sumType input.elem)
      (accumulator.getD output.elem) output.elem
    Kernel.compile shortcut.definition none options
  else if reduced.isEmpty then
    Kernel.compile (SumShortcut.copy output.elem).definition none options
  else reduce node (.prim .add) axes accumulator config

end LoopKernels.Lowering
