import LoopKernels.Kernel.Basic

/-!
# Shuffles

A shuffle transposes the kept axes to the front in output order and then gives
the array its output shape, which drops axes of length one and inserts others.
When all output lengths are known in advance, the known shape is used.
-/

namespace LoopKernels.Lowering

/-- A shuffle together with the output shape, where it is known. -/
structure ShufflePlan where
  shuffle : Shuffle
  staticShape : Option Shape
deriving DecidableEq, Repr

namespace ShufflePlan

/-- The rank of the output. -/
def outputRank (p : ShufflePlan) : Nat := p.shuffle.order.length

/-- The kept axes stand in order and the dropped ones behind them. -/
def isIdentity (p : ShufflePlan) : Bool := Tensor.inOrder p.shuffle.transposition

/-- Gives each kept axis the next of the lengths and each fresh axis length one. -/
def place : List ShuffleEntry → List Nat → Shape
  | [], _ => []
  | .fresh :: rest, lengths => 1 :: place rest lengths
  | .axis _ :: rest, length :: lengths => length :: place rest lengths
  | .axis _ :: rest, [] => 1 :: place rest []

/-- The output shape for a transposed input. -/
def outputShape (p : ShufflePlan) (transposed : Shape) : Shape :=
  match p.staticShape with
  | some shape => shape
  | none => place p.shuffle.order (transposed.take p.shuffle.kept.length)

/-- Shuffles the axes of an array, which must have the declared rank. -/
def run (p : ShufflePlan) (t : Tensor) : Except KernelError Tensor := do
  let order := p.shuffle.transposition
  if t.rank ≠ order.length then throw (.inputRank "dimshuffle" order.length t.shape)
  let transposed ← if p.isIdentity then pure t else KernelError.ofTensor (t.transpose order)
  if p.outputRank = 0 then KernelError.ofTensor (transposed.reshape [])
  else KernelError.ofTensor (transposed.reshape (p.outputShape transposed.shape))

/-- The texts of the output lengths, from the number of the next kept axis on. -/
def lengthTexts : Nat → List ShuffleEntry → List String
  | _, [] => []
  | next, .fresh :: rest => "1" :: lengthTexts next rest
  | next, .axis _ :: rest => ("x.shape[" ++ toString next ++ "]") :: lengthTexts (next + 1) rest

/-- The output shape in the listing. -/
def shapeText (p : ShufflePlan) : String :=
  if p.outputRank = 0 then "()"
  else
    match p.staticShape with
    | some shape => "(" ++ Listing.commas (shape.map toString) ++ ")"
    | none => "(" ++ Listing.commas (lengthTexts 0 p.shuffle.order) ++ ")"

/-- The text of the kernel. -/
def listing (p : ShufflePlan) : Listing :=
  let order := Listing.commas (p.shuffle.transposition.map toString)
  let source := if p.shuffle.inplace then "x" else "ascontiguousarray(x)"
  Listing.function "dimshuffle(x)"
    ((if p.isIdentity then [] else [⟨0, "x = transpose(x, (" ++ order ++ "));"⟩]) ++
      [⟨0, "return reshape(" ++ source ++ ", " ++ p.shapeText ++ ");"⟩])

/-- The kernel that rearranges axes. -/
def definition (p : ShufflePlan) : Definition where
  name := "dimshuffle"
  label := "loop.dimshuffle"
  listing := p.listing
  run _ inputs := do
    let t ← oneArgument "dimshuffle" inputs
    let shuffled ← p.run t
    pure (.tensor shuffled)

end ShufflePlan

/-- The kernel of a shuffle; ranks must fit the types of the node. -/
def shuffle (node : Node) (s : Shuffle) (config : Config) : Except KernelError Kernel := do
  let input ← node.onlyInput "DimShuffle"
  let output ← node.onlyOutput "DimShuffle"
  if input.rank ≠ s.inputRank then throw (.shuffleInputRank s.inputRank input.rank)
  KernelError.ofShuffle s.validate
  let plan : ShufflePlan := ⟨s, output.staticShape?⟩
  if plan.outputRank ≠ output.rank then throw (.shuffleOutputRank plan.outputRank output.rank)
  Kernel.compile plan.definition none { Options.ofConfig config with inlined := true }

end LoopKernels.Lowering
