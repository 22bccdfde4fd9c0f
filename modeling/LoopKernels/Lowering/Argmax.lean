import LoopKernels.Lane.Apply

/-!
# Argmax

The place of the greatest element over several axes jointly: the reduced axes are
moved last, flattened into one lane, and the place is taken along that lane. The
first of the greatest elements counts. A NaN counts as greater than every number, so
the first NaN wins. An array without axes has its greatest element at place zero.
-/

namespace LoopKernels

namespace Argmax

/-- The place of the winner among the best element so far and the elements from a place on. -/
def winner (best : Scalar) (bestPlace : Nat) : Nat → List Scalar → Nat
  | _, [] => bestPlace
  | place, value :: rest =>
    if value.isNaN then place
    else if value.above best then winner value place (place + 1) rest
    else winner best bestPlace (place + 1) rest

/-- The place of the winner in a list; an empty list has none. -/
def place? : List Scalar → Option Nat
  | [] => none
  | first :: rest => if first.isNaN then some 0 else some (winner first 0 1 rest)

/-- The place of the winner among all elements in row-major order. -/
def lane (t : Tensor) : Except KernelError Scalar :=
  match place? t.toList with
  | some place => .ok (.int (Int64.ofNat place))
  | none => .error .emptyArgmax

end Argmax

namespace Lowering

/-- How the place of the greatest element is found. -/
inductive ArgmaxPlan where
  /-- There is only one place. -/
  | rankZero
  /-- Transpose by an order that starts with this many kept axes, flatten the
      rest, and apply along the last axis. -/
  | joint (order : List Nat) (kept : Nat) (along : AxisApply)

namespace ArgmaxPlan

/-- Flattens the reduced axes and applies along them. -/
def runJoint (order : List Nat) (kept : Nat) (along : AxisApply) (t : Tensor) :
    Except KernelError Tensor := do
  if t.rank ≠ order.length then throw (.inputRank "argmax" order.length t.shape)
  let transposed ← KernelError.ofTensor (t.transpose order)
  let flat ← KernelError.ofTensor (Shape.elementCount (transposed.shape.drop kept))
  let flattened ← KernelError.ofTensor
    (transposed.reshape (transposed.shape.take kept ++ [flat]))
  along.apply flattened

/-- The places of the greatest elements. -/
def run (t : Tensor) : ArgmaxPlan → Except KernelError Value
  | rankZero => .ok (.scalar (.int 0) .i64)
  | joint order kept along => do
    let places ← runJoint order kept along t
    pure (.tensor places)

/-- The text of the kernel: a constant for an array without axes, else the lanes and the search
    over them. -/
def listing : ArgmaxPlan → Listing
  | rankZero => Listing.function "argmax(x)" [⟨0, "return 0;"⟩]
  | joint order kept along =>
    let axes := Listing.commas (order.map toString)
    along.lines ++ [Line.blank] ++
      Listing.function "argmax(x)"
        [⟨0, "transposed_x = ascontiguousarray(transpose(x, (" ++ axes ++ ")));"⟩,
          ⟨0, "kept_shape = transposed_x.shape[:" ++ toString kept ++ "];"⟩,
          ⟨0, "reduced_shape = transposed_x.shape[" ++ toString kept ++ ":];"⟩,
          ⟨0, "reduced_size = 1;"⟩,
          ⟨0, "for (s : reduced_shape) \x7b"⟩,
          ⟨1, "reduced_size *= s;"⟩,
          ⟨0, "\x7d"⟩,
          ⟨0, "reshaped_x = transposed_x.reshape((*kept_shape, reduced_size));"⟩,
          ⟨0, "return " ++ along.name ++ "(reshaped_x);"⟩]

/-- The kernel that finds the places of the greatest entries. -/
def definition (p : ArgmaxPlan) : Definition where
  name := "argmax"
  label := "loop.argmax"
  listing := p.listing
  run _ inputs := do
    let t ← oneArgument "argmax" inputs
    p.run t

/-- The plan for axes of an array of the given rank; the least axis that does not
    exist is reported. -/
def build (axes : Option (List Nat)) (rank : Nat) : Except KernelError ArgmaxPlan :=
  if rank = 0 then .ok .rankZero
  else
    let listed := axes.getD (Axis.every rank)
    let reduced := Axis.dropRepeats (Axis.sortBy (fun a b => decide (a ≤ b)) listed)
    match reduced.find? fun axis => decide (rank ≤ axis) with
    | some missing => .error (.inAxis ⟨Tensor.signedAxis missing, rank⟩)
    | none => do
      let kept := Axis.others rank reduced
      let along ← AxisApply.build "argmax" Argmax.lane kept.length (kept.length + 1) .i64
      pure (.joint (kept ++ reduced) kept.length along)

end ArgmaxPlan

/-- The kernel of an argmax over the listed axes, or over all of them. -/
def argmax (node : Node) (axes : Option (List Nat)) (config : Config) :
    Except KernelError Kernel := do
  let input ← node.onlyInput "Argmax"
  let _ ← node.onlyOutput "Argmax"
  let plan ← ArgmaxPlan.build axes input.rank
  Kernel.compile plan.definition none (Options.ofConfig config)

end Lowering

end LoopKernels
