import LoopKernels.Shape.Basic

/-!
# Broadcasting

Shapes are aligned at their last axes, and missing leading axes have length one.
An axis of length one stretches to any length. Several shapes broadcast together
when on every axis the lengths other than one agree. A shape that stretches to
another one reads its elements through strides that are zero on stretched axes.
-/

namespace LoopKernels.Shape

/-- A shape of the given rank, with leading axes of length one. -/
def padTo (rank : Nat) (shape : Shape) : Shape := List.replicate (rank - shape.length) 1 ++ shape

/-- The length that one axis has so far, met by another length. -/
def meetAxis? (current length : Nat) : Option Nat :=
  if current = 1 then some length
  else if length ≠ 1 ∧ length ≠ current then none
  else some current

/-- Two shapes of one rank, axis by axis. -/
def meet? : Shape → Shape → Option Shape
  | current :: shape, length :: other => do
    let met ← meetAxis? current length
    let rest ← meet? shape other
    pure (met :: rest)
  | _, _ => some []

/-- Greatest rank among the shapes. -/
def maxRank (shapes : List Shape) : Nat := shapes.foldl (fun rank shape => max rank shape.length) 0

/-- The shape to which all shapes stretch. -/
def broadcast? (shapes : List Shape) : Option Shape :=
  let rank := maxRank shapes
  (shapes.map (padTo rank)).foldlM meet? (List.replicate rank 1)

/-- Strides of one axis after another for reading a shape as a target of the
    same rank; stretched axes have stride zero. -/
def stretchAxes? : Shape → List Nat → Shape → Option (List Nat)
  | length :: shape, stride :: strides, target :: targets => do
    let rest ← stretchAxes? shape strides targets
    if length = target then some (stride :: rest)
    else if length = 1 then some (0 :: rest)
    else none
  | _, _, _ => some []

end LoopKernels.Shape
